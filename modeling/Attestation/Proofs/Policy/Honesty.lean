import Attestation.Identity
import Attestation.Proofs.Claims.Canonical
import Attestation.Proofs.Policy.Corroboration

/-!
Honest participants are never refused: an agent that stands for a registered participant is
judged by the comparison alone.
-/

namespace Attestation

open Policy

/-! ### Equal claim sets -/

namespace ClaimValue

lemma find?_of_sameMembers {k : String} {w : ClaimValue} {ms ns : List (String × ClaimValue)}
    (h : sameMembers ms ns = true) (hw : Keyed.find? k ns = some w) :
    ∃ v, Keyed.find? k ms = some v ∧ v.same w = true := by
  induction ms generalizing ns with
  | nil =>
    cases ns with
    | nil => simp at hw
    | cons n ns => simp [sameMembers] at h
  | cons m ms ih =>
    obtain ⟨j, v⟩ := m
    cases ns with
    | nil => simp [sameMembers] at h
    | cons n ns =>
      obtain ⟨j', w'⟩ := n
      simp only [sameMembers, Bool.and_eq_true, beq_iff_eq] at h
      obtain ⟨⟨rfl, hv⟩, hrest⟩ := h
      rw [Keyed.find?] at hw ⊢
      split
      · rename_i hk
        rw [if_pos hk] at hw
        cases hw
        exact ⟨v, rfl, hv⟩
      · rename_i hk
        rw [if_neg hk] at hw
        exact ih hrest hw

lemma eq_text_of_same {v : ClaimValue} {s : String} (h : v.same (.text s) = true) :
    v = .text s := by
  cases v <;> simp_all [same]

end ClaimValue

/-- A text is under the same key in every set that compares equal. -/
lemma ClaimSet.get?_text_of_same {a b : ClaimSet} {key s : String} (h : a.same b = true)
    (hs : b.get? key = some (.text s)) : a.get? key = some (.text s) := by
  obtain ⟨v, hv, hsame⟩ := ClaimValue.find?_of_sameMembers h hs
  exact hv.trans (congrArg some (ClaimValue.eq_text_of_same hsame))

/-! ### The agent of an identity -/

namespace Agent

variable {id signature : String} {claims : ClaimSet}

lemma attribute?_ofIdentity (name : String) : (ofIdentity id claims signature).attribute? name =
    if name = "signedClaims" then some (.string signature)
    else if name = "claims" then some claims.json
    else if name = "client_id" then some (.string id)
    else none := by
  simp only [ofIdentity, attribute?, withAttribute, Keyed.find?_insert]
  rfl

lemma clientId_ofIdentity (h : Text.isBlank id = false) :
    (ofIdentity id claims signature).clientId = .ok id :=
  clientId_eq_ok_iff.2 ⟨attribute?_ofIdentity "client_id", h⟩

lemma signedClaims?_ofIdentity (h : Text.isBlank signature = false) :
    (ofIdentity id claims signature).signedClaims? = some signature :=
  text?_eq_some_iff.2 ⟨attribute?_ofIdentity "signedClaims", h⟩

lemma claims_ofIdentity : (ofIdentity id claims signature).claims = .ok claims := by
  have hattribute : (ofIdentity id claims signature).attribute? "claims" =
      some (.object (ClaimValue.jsonMembers claims.entries)) := attribute?_ofIdentity "claims"
  have hread := claims.ofJson?_json
  rw [ClaimSet.json] at hread
  simp only [Agent.claims, hattribute, claimsOfJson, hread]

end Agent

/-! ### Honest participants -/

namespace Directory

/-- The directory has a record of a participant with this key and these claims. -/
def Registers (d : Directory) (id : String) (key : PublicKey) (claims : ClaimSet) : Prop :=
  ∃ r, d.lookup id = some r ∧ r.publicKeyPem = key.pem ∧ r.claims.same claims = true

lemma registers_register (d : Directory) (id : String) (key : PublicKey) (claims : ClaimSet) :
    (d.register id ⟨key.pem, claims⟩).Registers id key claims := by
  refine ⟨⟨key.pem, claims⟩, ?_, rfl, claims.same_self⟩
  rw [lookup, register, Keyed.find?_insert, if_pos rfl]

/-- A value in a set that equals the registered one is vouched for by key. -/
lemma Vouches.perKey {d : Directory} {agent : Agent} {p k v : String} {claims : ClaimSet}
    (hv : subject? k p claims = some v) (h : d.Vouches .bundle agent p claims k v) :
    d.Vouches .perKey agent p claims k v := by
  obtain ⟨r, hr, hsame, -⟩ := h
  refine ⟨r, hr, fun hown => ?_⟩
  rw [subject?, if_neg hown] at hv
  obtain ⟨hget, -⟩ := ClaimSet.text?_eq_some_iff.1 hv
  exact ⟨.text v, ClaimSet.get?_text_of_same hsame hget, rfl⟩

lemma Registers.vouches {d : Directory} {id : String} {key : SigningKey} {claims : ClaimSet}
    {protocol : Protocol} {k v : String} (h : d.Registers id key.publicKey claims)
    (hv : subject? k id claims = some v) :
    d.Vouches protocol (.ofIdentity id claims (key.signClaims claims)) id claims k v := by
  obtain ⟨r, hr, hpem, hsame⟩ := h
  have hbundle : d.Vouches .bundle (.ofIdentity id claims (key.signClaims claims)) id claims k
      v := by
    refine ⟨r, hr, hsame, key.signClaims claims, ?_, ?_⟩
    · exact Agent.signedClaims?_ofIdentity (Signature.isBlank_base64 _)
    · rw [hpem]
      exact key.verifySignaturePem_signClaims claims
  cases protocol with
  | bundle => exact hbundle
  | perKey => exact hbundle.perKey hv

end Directory

/-- The outcome of the comparison by itself: an error, or nothing to compare, counts as no. -/
def Policy.bareOutcome (c : Constraint) (participant : String) (claims : ClaimSet) : Bool :=
  match subject? c.key participant claims with
  | some v => (comparison c.key c.operator v c.right).toOption.getD false
  | none => false

lemma Policy.bareOutcome_eq_true_iff {c : Constraint} {participant : String}
    {claims : ClaimSet} : bareOutcome c participant claims = true ↔
      ∃ v, subject? c.key participant claims = some v ∧
        comparison c.key c.operator v c.right = .ok true := by
  unfold bareOutcome
  cases subject? c.key participant claims with
  | none => simp
  | some v => cases hc : comparison c.key c.operator v c.right <;> simp [Except.toOption, hc]

/-- **Honest participants are never refused.** The participant with a name that is not blank
gets an identity, and where its derived key and its claims are registered, a constraint that is
not on the time comes out for its agent as the comparison alone does. -/
theorem verdict_of_registers {d : Directory} {id : String} {claims : ClaimSet} {keys : KeyPair}
    (hkeys : keys.verifying = keys.signing.publicKey) (hid : Text.isBlank id = false)
    (h : d.Registers id keys.verifying claims) :
    ∃ i, Identity.ofParts id claims keys = .ok i ∧
      ∀ (protocol : Protocol) (clock : Clock) (now : Time.Instant) (c : Constraint),
        c.key ≠ evaluationTime →
          d.verdict protocol clock now c i.token = bareOutcome c id claims := by
  refine ⟨⟨id, keys, .sign claims keys.signing⟩, ?_, fun protocol clock now c hkey => ?_⟩
  · rw [Identity.ofParts, hid]
    rfl
  rw [hkeys] at h
  rw [Bool.eq_iff_iff, Directory.verdict_eq_true_iff hkey, bareOutcome_eq_true_iff]
  constructor
  · rintro ⟨p, asserted, v, hp, hclaims, hv, -, hc⟩
    obtain rfl : id = p := Except.ok.inj ((Agent.clientId_ofIdentity hid).symm.trans hp)
    obtain rfl : claims = asserted := Except.ok.inj (Agent.claims_ofIdentity.symm.trans hclaims)
    exact ⟨v, hv, hc⟩
  · rintro ⟨v, hv, hc⟩
    exact ⟨id, claims, v, Agent.clientId_ofIdentity hid, Agent.claims_ofIdentity, hv,
      h.vouches hv, hc⟩

/-- A participant with a nested claim, judged by its location. -/
theorem verdict_of_registers_location :
    ∃ (keys : KeyPair) (d : Directory) (claims : ClaimSet) (i : Identity),
      keys.verifying = keys.signing.publicKey ∧ d.Registers "p" keys.verifying claims ∧
      Identity.ofParts "p" claims keys = .ok i ∧
      ∀ protocol : Protocol, d.verdict protocol .system ⟨0, 0⟩
        ⟨"ns/location", .eq, .string "eu"⟩ i.token = true := by
  let k : SigningKey := ⟨⟨List.replicate 32 7, rfl⟩⟩
  let keys : KeyPair := ⟨k, k.publicKey, k.keysMatch_publicKey⟩
  let claims := (ClaimSet.empty.insert "location" (.text "eu")).insert "meta"
    (ClaimSet.empty.insert "tier" (.number (.natural 3))).claim
  let d := Directory.empty.register "p" ⟨k.publicKey.pem, claims⟩
  have hkeys : keys.verifying = keys.signing.publicKey := rfl
  have hd : d.Registers "p" keys.verifying claims := Directory.registers_register _ _ _ _
  obtain ⟨i, hi, hverdict⟩ := verdict_of_registers hkeys (by decide) hd
  have hcompare : bareOutcome ⟨"ns/location", .eq, .string "eu"⟩ "p" claims = true := by decide
  exact ⟨keys, d, claims, i, hkeys, hd, hi, fun protocol =>
    (hverdict protocol .system ⟨0, 0⟩ _ (by decide)).trans hcompare⟩

end Attestation
