import Attestation.Key
import Attestation.Proofs.Ed25519.Scheme
import Attestation.Proofs.Encoding.KeyDocument
import Attestation.Proofs.Encoding.Pem

/-!
Keys and signatures survive their text forms, and a signature verifies under the public key
that is derived from the signing key.
-/

namespace Attestation

/-! ### Text forms -/

lemma Octets.ofList?_bytes {n : ℕ} (o : Octets n) : ofList? n o.bytes = some o := by
  rw [ofList?, dif_pos o.length_eq]

namespace Signature

lemma isSpace_of_mem_base64 {s : Signature} {c : Char} (hc : c ∈ s.base64.toList) :
    Text.isSpace c = false := by
  rw [base64, String.toList_ofList] at hc
  exact Base64.isSpace_of_isBase64Char (Base64.isBase64Char_of_mem_encode _ c hc)

lemma base64_ne_nil (s : Signature) : s.base64.toList ≠ [] := by
  have hbytes : s.octets.bytes ≠ [] := by
    intro h
    have hlength := s.octets.length_eq
    rw [h] at hlength
    exact absurd hlength (by decide)
  rw [base64, String.toList_ofList]
  exact Base64.encode_ne_nil hbytes

lemma isBlank_base64 (s : Signature) : Text.isBlank s.base64 = false := by
  obtain ⟨c, cs, hs⟩ := List.exists_cons_of_ne_nil s.base64_ne_nil
  have hc : Text.isSpace c = false := isSpace_of_mem_base64 (hs ▸ List.mem_cons_self)
  rw [Text.isBlank, hs, List.all_cons, hc, Bool.false_and]

/-- **A signature is read back from its base64 text.** -/
theorem ofBase64_base64 (s : Signature) : ofBase64 s.base64 = .ok s := by
  have htrim : Text.trimChars s.base64.toList = s.base64.toList :=
    Text.stripWhile_of_forall_not fun c hc => isSpace_of_mem_base64 hc
  have hdecode : Base64.decode s.base64.toList = some s.octets.bytes := by
    rw [base64, String.toList_ofList, Base64.decode_encode]
  simp only [ofBase64, htrim, hdecode, Octets.ofList?_bytes]

end Signature

namespace PublicKey

lemma ofOctets_eq_ok_iff {octets : Octets 32} {k : PublicKey} :
    ofOctets octets = .ok k ↔ k.octets = octets ∧ k.isPoint = true := by
  unfold ofOctets
  constructor
  · intro h
    dsimp only at h
    split_ifs at h with hpoint
    cases h
    exact ⟨rfl, hpoint⟩
  · rintro ⟨rfl, hpoint⟩
    exact if_pos hpoint

lemma ofPem_of_refused {pem : String} {e : Error} (h : Pem.decode .verifying pem = .error e) :
    ofPem pem = .error e := by
  unfold ofPem
  rw [h]
  rfl

lemma ofPem_of_decode {pem : String} {der : List UInt8} (h : Pem.decode .verifying pem = .ok der) :
    ofPem pem = (ofDocument? der).elim (.error (.invalidKey .badPublicDocument)) .ok := by
  unfold ofPem
  rw [h]
  simp only [bind, Except.bind]
  cases ofDocument? der <;> rfl

lemma encodePublic_ne_nil (key : List UInt8) : KeyDocument.encodePublic key ≠ [] :=
  List.cons_ne_nil _ _

lemma ofDocument?_encodePublic {k : PublicKey} (h : k.isPoint = true) :
    ofDocument? (KeyDocument.encodePublic k.bytes) = some k := by
  have hbytes : KeyDocument.decodePublic (KeyDocument.encodePublic k.bytes) = some k.bytes :=
    KeyDocument.decodePublic_encodePublic k.octets.length_eq
  have hoctets : Octets.ofList? 32 k.bytes = some k.octets := k.octets.ofList?_bytes
  unfold ofDocument?
  rw [hbytes, Option.bind_eq_bind, Option.bind_some, hoctets, Option.bind_eq_bind, Option.bind_some,
    ofOctets_eq_ok_iff.2 ⟨rfl, h⟩]
  rfl

/-- **A public key is read back from its PEM**, as long as it is a point. -/
theorem ofPem_pem {k : PublicKey} (h : k.isPoint = true) : ofPem k.pem = .ok k := by
  rw [pem, ofPem_of_decode (Pem.decode_encode .verifying (encodePublic_ne_nil _)),
    ofDocument?_encodePublic h, Option.elim_some]

end PublicKey

/-! ### Signing -/

lemma verifySignature_iff {key : PublicKey} {s : String} {claims : ClaimSet} :
    verifySignature key s claims = true ↔ ∃ signature, Signature.ofBase64 s = .ok signature ∧
      key.verify claims.canonical signature = .ok () := by
  unfold verifySignature
  cases Signature.ofBase64 s with
  | error e => simp
  | ok signature =>
    cases hv : key.verify claims.canonical signature <;> simp [Except.isOk, Except.toBool, hv]

lemma verifySignaturePem_iff {pem s : String} {claims : ClaimSet} :
    verifySignaturePem pem s claims = true ↔
      ∃ key signature, PublicKey.ofPem pem = .ok key ∧ Signature.ofBase64 s = .ok signature ∧
        key.verify claims.canonical signature = .ok () := by
  unfold verifySignaturePem
  cases PublicKey.ofPem pem with
  | error e => simp
  | ok key =>
    simp only [verifySignature_iff, Except.ok.injEq]
    constructor
    · rintro ⟨signature, hs, hv⟩
      exact ⟨key, signature, rfl, hs, hv⟩
    · rintro ⟨_, signature, rfl, hs, hv⟩
      exact ⟨signature, hs, hv⟩

namespace SigningKey

lemma bytes_publicKey (k : SigningKey) : k.publicKey.bytes = Ed25519.publicBytes k.seed.bytes := by
  rw [publicKey, PublicKey.bytes, Octets.fit_of_length (Ed25519.length_publicBytes _)]

lemma bytes_sign (k : SigningKey) (message : List UInt8) :
    (k.sign message).octets.bytes = Ed25519.sign k.seed.bytes message := by
  rw [sign, Octets.fit_of_length (Ed25519.length_sign _ _)]

lemma isPoint_publicKey (k : SigningKey) : k.publicKey.isPoint = true := by
  obtain ⟨q, hq, -⟩ := Ed25519.decode?_publicBytes k.seed.bytes
  have hbytes : k.publicKey.octets.bytes = _ := k.bytes_publicKey
  rw [PublicKey.isPoint, hbytes, hq, Option.isSome_some]

lemma verify_sign (k : SigningKey) (message : List UInt8) :
    k.publicKey.verify message (k.sign message) = .ok () := by
  rw [PublicKey.verify, bytes_publicKey, bytes_sign, Ed25519.verify_sign]

/-- A signing key and its public key are a pair. -/
lemma keysMatch_publicKey (k : SigningKey) : keysMatch k.publicKey k = true := by
  have h := k.verify_sign probeMessage
  unfold keysMatch
  rw [h]
  rfl

/-- **Signed claims verify under the text of the derived public key.** -/
theorem verifySignaturePem_signClaims (k : SigningKey) (claims : ClaimSet) :
    verifySignaturePem k.publicKey.pem (k.signClaims claims) claims = true := by
  refine verifySignaturePem_iff.2 ⟨k.publicKey, k.sign claims.canonical, ?_, ?_, ?_⟩
  · exact PublicKey.ofPem_pem k.isPoint_publicKey
  · exact Signature.ofBase64_base64 _
  · exact k.verify_sign _

lemma ofPem_of_refused {pem : String} {e : Error} (h : Pem.decode .signing pem = .error e) :
    ofPem pem = .error e := by
  unfold ofPem
  rw [h]
  rfl

lemma ofPem_of_decode {pem : String} {der : List UInt8} (h : Pem.decode .signing pem = .ok der) :
    ofPem pem = (ofDocument? der).elim (.error (.invalidKey .badPrivateDocument)) .ok := by
  unfold ofPem
  rw [h]
  simp only [bind, Except.bind]
  cases ofDocument? der <;> rfl

lemma encodePrivate_ne_nil (seed key : List UInt8) : KeyDocument.encodePrivate seed key ≠ [] :=
  List.cons_ne_nil _ _

lemma ofDocument?_encodePrivate (k : SigningKey) :
    ofDocument? (KeyDocument.encodePrivate k.seed.bytes k.publicKey.bytes) = some k := by
  have hbytes : KeyDocument.decodePrivate
      (KeyDocument.encodePrivate k.seed.bytes k.publicKey.bytes) =
        some (k.seed.bytes, some k.publicKey.bytes) :=
    KeyDocument.decodePrivate_encodePrivate k.seed.length_eq k.publicKey.octets.length_eq
  unfold ofDocument?
  rw [hbytes, Option.bind_eq_bind, Option.bind_some]
  dsimp only
  rw [Octets.ofList?_bytes, Option.bind_eq_bind, Option.bind_some]
  exact if_pos rfl

/-- **A signing key is read back from its PEM.** -/
theorem ofPem_pem (k : SigningKey) : ofPem k.pem = .ok k := by
  rw [pem, ofPem_of_decode (Pem.decode_encode .signing (encodePrivate_ne_nil _ _)),
    ofDocument?_encodePrivate, Option.elim_some]

end SigningKey

end Attestation
