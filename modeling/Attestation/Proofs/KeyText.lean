import Attestation.Proofs.Encoding.Grammar
import Attestation.Proofs.Key

/-!
What the texts of keys and signatures tell.

A document of one kind of key is read back to that key, in its armor and without it, and never as
a key of the other kind. A signature has one text, up to the white space around it.
-/

namespace Attestation

/-! ### Keys -/

namespace SigningKey

/-- The text is read as this signing key, and as no public key. -/
structure WrittenAs (k : SigningKey) (text : String) : Prop where
  reads : ofPem text = .ok k
  unmistakable : ∃ e, PublicKey.ofPem text = .error e

lemma publicDocument?_encodePrivate (k : SigningKey) :
    PublicKey.ofDocument? (KeyDocument.encodePrivate k.seed.bytes k.publicKey.bytes) = none := by
  have hkey : k.publicKey.bytes.length = 32 := k.publicKey.octets.length_eq
  unfold PublicKey.ofDocument?
  rw [KeyDocument.decodePublic_encodePrivate k.seed.length_eq hkey]
  rfl

/-- The labels of a private document tell it from a public one. -/
lemma writtenAs_pem (k : SigningKey) : k.WrittenAs k.pem where
  reads := k.ofPem_pem
  unmistakable := by
    have hrefused := Pem.decode_encode_of_ne (by decide : KeyKind.verifying ≠ .signing)
      (encodePrivate_ne_nil k.seed.bytes k.publicKey.bytes)
    exact ⟨_, PublicKey.ofPem_of_refused hrefused⟩

/-- Without armor, its bytes do. -/
lemma writtenAs_withoutArmor (k : SigningKey) : k.WrittenAs (Pem.withoutArmor k.pem) where
  reads := by
    rw [pem, ofPem_of_decode (Pem.decode_withoutArmor .signing .signing (encodePrivate_ne_nil _ _)),
      ofDocument?_encodePrivate, Option.elim_some]
  unmistakable := by
    rw [pem, PublicKey.ofPem_of_decode
      (Pem.decode_withoutArmor .signing .verifying (encodePrivate_ne_nil _ _)),
      publicDocument?_encodePrivate]
    exact ⟨_, rfl⟩

end SigningKey

namespace PublicKey

variable {k : PublicKey} {text : String}

/-- The text is read as this public key, and as no signing key. -/
structure WrittenAs (k : PublicKey) (text : String) : Prop where
  reads : ofPem text = .ok k
  unmistakable : ∃ e, SigningKey.ofPem text = .error e

lemma signingDocument?_encodePublic (k : PublicKey) :
    SigningKey.ofDocument? (KeyDocument.encodePublic k.bytes) = none := by
  have hkey : k.bytes.length = 32 := k.octets.length_eq
  unfold SigningKey.ofDocument?
  rw [KeyDocument.decodePrivate_encodePublic hkey]
  rfl

lemma writtenAs_pem (h : k.isPoint = true) : k.WrittenAs k.pem where
  reads := ofPem_pem h
  unmistakable := by
    have hrefused := Pem.decode_encode_of_ne (by decide : KeyKind.signing ≠ .verifying)
      (encodePublic_ne_nil k.bytes)
    exact ⟨_, SigningKey.ofPem_of_refused hrefused⟩

lemma writtenAs_withoutArmor (h : k.isPoint = true) : k.WrittenAs (Pem.withoutArmor k.pem) where
  reads := by
    rw [pem, ofPem_of_decode (Pem.decode_withoutArmor .verifying .verifying (encodePublic_ne_nil _)),
      ofDocument?_encodePublic h, Option.elim_some]
  unmistakable := by
    rw [pem, SigningKey.ofPem_of_decode
      (Pem.decode_withoutArmor .verifying .signing (encodePublic_ne_nil _)),
      signingDocument?_encodePublic]
    exact ⟨_, rfl⟩

/-- A key verifies the same through every text that it is written as. -/
lemma WrittenAs.verifySignaturePem_eq (h : k.WrittenAs text) (s : String) (claims : ClaimSet) :
    verifySignaturePem text s claims = verifySignature k s claims := by
  unfold verifySignaturePem
  rw [h.reads]

end PublicKey

/-- **Keys survive their texts, and their kinds are never confused.** With armor and without it,
the document of a signing key is that key's and that of an accepted public key is that one's, while
the other kind of key refuses them; and it makes no difference to a signature whether it is put
before a public key or before its document. -/
theorem keys_writtenAs (k : SigningKey) {octets : Octets 32} {p : PublicKey}
    (hp : PublicKey.ofOctets octets = .ok p) :
    (k.WrittenAs k.pem ∧ k.WrittenAs (Pem.withoutArmor k.pem)) ∧
      (p.WrittenAs p.pem ∧ p.WrittenAs (Pem.withoutArmor p.pem)) ∧
      ∀ s claims, verifySignaturePem p.pem s claims = verifySignature p s claims := by
  obtain ⟨-, hpoint⟩ := PublicKey.ofOctets_eq_ok_iff.1 hp
  have hwritten := PublicKey.writtenAs_pem hpoint
  exact ⟨⟨k.writtenAs_pem, k.writtenAs_withoutArmor⟩,
    ⟨hwritten, PublicKey.writtenAs_withoutArmor hpoint⟩, hwritten.verifySignaturePem_eq⟩

/-- The two keys of the seed of zeros. -/
theorem keys_writtenAs_zeros :
    ∃ (k : SigningKey) (p : PublicKey), k.seed.bytes = List.replicate 32 0 ∧
      PublicKey.ofOctets k.publicKey.octets = .ok p ∧ k.WrittenAs (Pem.withoutArmor k.pem) ∧
      p.WrittenAs (Pem.withoutArmor p.pem) := by
  let k : SigningKey := ⟨⟨List.replicate 32 0, rfl⟩⟩
  have hp : PublicKey.ofOctets k.publicKey.octets = .ok k.publicKey :=
    PublicKey.ofOctets_eq_ok_iff.2 ⟨rfl, k.isPoint_publicKey⟩
  obtain ⟨⟨-, hk⟩, ⟨-, hpublic⟩, -⟩ := keys_writtenAs k hp
  exact ⟨k, k.publicKey, rfl, hp, hk, hpublic⟩

/-! ### Signatures -/

namespace Signature

/-- **A signature has one text**, up to the white space around it. -/
lemma ofBase64_eq_ok_iff {s : String} {x : Signature} :
    ofBase64 s = .ok x ↔ Text.trim s = x.base64 := by
  have htext : Text.trim s = x.base64 ↔
      Base64.decode (Text.trimChars s.toList) = some x.octets.bytes := by
    rw [Base64.decode_eq_some_iff, Text.trim, base64]
    exact ⟨fun h => String.ofList_injective h, congrArg String.ofList⟩
  rw [htext]
  unfold ofBase64
  cases Base64.decode (Text.trimChars s.toList) with
  | none => simp
  | some bytes =>
    constructor
    · intro h
      unfold Octets.ofList? at h
      dsimp only at h
      split_ifs at h with hlength
      cases h
      rfl
    · intro h
      cases h
      simp only [Octets.ofList?_bytes]

lemma exists_signatureInvalid {s : String} {e : Error} (h : ofBase64 s = .error e) :
    ∃ fault, e = .signatureInvalid fault := by
  unfold ofBase64 at h
  split at h
  · cases h
    exact ⟨_, rfl⟩
  · split at h <;> cases h
    exact ⟨_, rfl⟩

/-- The texts that are no signature. -/
lemma ofBase64_eq_error_iff {s : String} :
    (∃ fault, ofBase64 s = .error (.signatureInvalid fault)) ↔
      ∀ x : Signature, Text.trim s ≠ x.base64 := by
  constructor
  · rintro ⟨fault, hfault⟩ x hx
    rw [ofBase64_eq_ok_iff.2 hx] at hfault
    cases hfault
  · intro hnone
    cases h : ofBase64 s with
    | ok x => exact absurd (ofBase64_eq_ok_iff.1 h) (hnone x)
    | error e =>
      obtain ⟨fault, rfl⟩ := exists_signatureInvalid h
      exact ⟨fault, rfl⟩

/-- **Signature texts are not malleable.** The texts of a signature are its base64 text with white
space around it, and every other text is refused; so a text verifies exactly if it is such a text
of a signature that verifies, and of the texts that verify, those that stand for one signature
differ in white space around them and in nothing else. -/
theorem texts_unmalleable (key : PublicKey) (claims : ClaimSet) (s t : String) :
    (∀ x, ofBase64 s = .ok x ↔ Text.trim s = x.base64) ∧
      ((∃ fault, ofBase64 s = .error (.signatureInvalid fault)) ↔
        ∀ x : Signature, Text.trim s ≠ x.base64) ∧
      (verifySignature key s claims = true ↔
        ∃ x : Signature, Text.trim s = x.base64 ∧ key.verify claims.canonical x = .ok ()) ∧
      (verifySignature key s claims = true → verifySignature key t claims = true →
        ofBase64 s = ofBase64 t → Text.trim s = Text.trim t) := by
  refine ⟨fun x => ofBase64_eq_ok_iff, ofBase64_eq_error_iff, ?_, ?_⟩
  · rw [verifySignature_iff]
    simp only [ofBase64_eq_ok_iff]
  · intro hs _ hst
    obtain ⟨x, hx, -⟩ := verifySignature_iff.1 hs
    rw [ofBase64_eq_ok_iff.1 hx, ofBase64_eq_ok_iff.1 (hst ▸ hx)]

/-- The same signature, once with a space before it and a line feed after it. -/
theorem texts_unmalleable_sample :
    ∃ (k : SigningKey) (claims : ClaimSet) (s t : String), s ≠ t ∧
      verifySignature k.publicKey s claims = true ∧ verifySignature k.publicKey t claims = true ∧
      ofBase64 s = ofBase64 t ∧ Text.trim s = Text.trim t := by
  let k : SigningKey := ⟨⟨List.replicate 32 0, rfl⟩⟩
  let claims := ClaimSet.empty.insert "location" (.text "eu")
  let x := k.sign claims.canonical
  let t := String.ofList ([' '] ++ x.base64.toList ++ ['\n'])
  have hverify : k.publicKey.verify claims.canonical x = .ok () := k.verify_sign _
  have hs : ofBase64 x.base64 = .ok x := ofBase64_base64 x
  have ht : ofBase64 t = .ok x := by
    refine ofBase64_eq_ok_iff.2 ?_
    have htrim : Text.trimChars ([' '] ++ x.base64.toList ++ ['\n']) = x.base64.toList :=
      Text.trimChars_append (List.forall_mem_singleton.2 rfl) (List.forall_mem_singleton.2 rfl)
        fun c hc => isSpace_of_mem_base64 hc
    rw [Text.trim, String.toList_ofList, htrim, String.ofList_toList]
  have hne : x.base64 ≠ t := by
    intro heq
    have hlength := congrArg (fun u => u.toList.length) heq
    simp only [t, String.toList_ofList, List.length_append, List.length_singleton] at hlength
    omega
  have hst : ofBase64 x.base64 = ofBase64 t := hs.trans ht.symm
  have hsv := verifySignature_iff.2 ⟨x, hs, hverify⟩
  have htv := verifySignature_iff.2 ⟨x, ht, hverify⟩
  exact ⟨k, claims, x.base64, t, hne, hsv, htv, hst,
    (texts_unmalleable k.publicKey claims x.base64 t).2.2.2 hsv htv hst⟩

end Signature

end Attestation
