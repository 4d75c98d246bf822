import Attestation.Proofs.Claims.Canonical
import Attestation.Proofs.Computation
import Attestation.Proofs.Json.Bytes
import Attestation.Registry.Directory
import Attestation.Registry.Wire

/-!
What travels between a client and a registry arrives as it was sent: requests, verdicts and
registered claims are read back from the bytes of their JSON texts.
-/

namespace Attestation

open Json (depthLimit)

/-- The binary64 numbers among the claims are read back from their own texts. -/
def ClaimSet.RealsReadBack (s : ClaimSet) : Prop :=
  ∀ x hx, .real x hx ∈ s.json.numbers → (Json.Number.real x hx).ReadsBack

/-- The result is a success just if both of its flags are set. -/
def Verification.FollowsFlags (v : Verification) : Prop := v.success = (v.signature && v.claims)

lemma Verification.followsFlags_new (signature claims : Bool) (message : String) :
    (new signature claims message).FollowsFlags := rfl

/-- Such a result is the one that its flags and its message make. -/
lemma Verification.new_eq_self_iff {v : Verification} :
    new v.signature v.claims v.message = v ↔ v.FollowsFlags := by
  constructor
  · exact fun h => h ▸ followsFlags_new _ _ _
  · intro h
    rw [new, ← h]

namespace Registry

/-- A body is read back from the text of the value that is sent. -/
lemma ofBody?_text {α : Type} (read : Json.Draft → Option α) {v : Json}
    (hdepth : v.depth < depthLimit)
    (h : ∀ x hx, .real x hx ∈ v.numbers → (Json.Number.real x hx).ReadsBack) :
    ofBody? read (Text.utf8 v.text) = read v.draft := by
  rw [ofBody?, Json.parseBytes_utf8, Json.text, String.toList_ofList,
    Json.draftParse_chars hdepth h, Option.bind_some]

namespace BundleRequest

lemma ofDraft?_json (r : BundleRequest) : ofDraft? r.json.draft = some r := by
  have hclaims : ClaimSet.ofDraft? r.claims.json.draft = some r.claims := r.claims.ofJson?_json
  simp [ofDraft?, json, Json.draft, Json.draftMembers, Json.Draft.fields?, Json.Draft.memberField?,
    Json.Draft.membersAt, Json.Field.required, Json.Draft.string?, hclaims]

/-- **A request is read back from its body.** -/
theorem ofBody?_json {r : BundleRequest} (hdepth : r.claims.json.depth ≤ 126)
    (h : r.claims.RealsReadBack) : ofBody? ofDraft? (Text.utf8 r.json.text) = some r := by
  rw [ofBody?_text, ofDraft?_json]
  · simp only [json, Json.depth, Json.depthMembers, depthLimit]
    omega
  · simpa [json, Json.numbers, Json.numbersOfMembers, ClaimSet.RealsReadBack] using h

end BundleRequest

namespace ClaimsResponse

lemma ofDraft?_json (r : ClaimsResponse) : ofDraft? r.json.draft = some r := by
  have hclaims : ClaimSet.ofDraft? r.claims.json.draft = some r.claims := r.claims.ofJson?_json
  simp [ofDraft?, json, Json.draft, Json.draftMembers, Json.Draft.fields?, Json.Draft.memberField?,
    Json.Draft.membersAt, Json.Field.required, hclaims]

/-- **Registered claims are read back from the body that hands them out.** -/
theorem ofBody?_json {r : ClaimsResponse} (hdepth : r.claims.json.depth ≤ 126)
    (h : r.claims.RealsReadBack) : ofBody? ofDraft? (Text.utf8 r.json.text) = some r := by
  rw [ofBody?_text, ofDraft?_json]
  · simp only [json, Json.depth, Json.depthMembers, depthLimit]
    omega
  · simpa [json, Json.numbers, Json.numbersOfMembers, ClaimSet.RealsReadBack] using h

end ClaimsResponse

namespace TypedFlag

lemma ofDraft?_json (f : TypedFlag) : ofDraft? f.json.draft = some f := by
  simp [ofDraft?, json, Json.draft, Json.draftMembers, Json.Draft.fields?, Json.Draft.memberField?,
    Json.Draft.membersAt, Json.Field.required, Json.Draft.string?]

@[simp] lemma value_ofBool (b : Bool) : (ofBool b).value = .ok b := by
  cases b <;> rfl

end TypedFlag

namespace BundleResponse

lemma ofDraft?_json (r : BundleResponse) : ofDraft? r.json.draft = some r := by
  simp [ofDraft?, json, Json.draft, Json.draftMembers, Json.Draft.fields?, Json.Draft.memberField?,
    Json.Draft.membersAt, Json.Field.required, TypedFlag.ofDraft?_json]

/-- **A verdict is read back from its body.** -/
theorem ofBody?_json (r : BundleResponse) : ofBody? ofDraft? (Text.utf8 r.json.text) = some r := by
  rw [ofBody?_text, ofDraft?_json]
  · simp [json, TypedFlag.json, Json.depth, Json.depthMembers, depthLimit]
  · simp [json, TypedFlag.json, Json.numbers, Json.numbersOfMembers]

/-- The flags of a verdict come out as they went in. -/
lemma verification_ofVerification (v : Verification) :
    ∃ w, (ofVerification v).verification = .ok w ∧ w.signature = v.signature ∧
      w.claims = v.claims := by
  simp [ofVerification, verification, bind, Except.bind, pure, Except.pure]

lemma followsFlags_of_verification {r : BundleResponse} {v : Verification}
    (h : r.verification = .ok v) : v.FollowsFlags := by
  obtain ⟨signature, -, h⟩ := Except.bind_eq_ok_iff.1 h
  obtain ⟨claims, -, h⟩ := Except.bind_eq_ok_iff.1 h
  cases h
  exact Verification.followsFlags_new _ _ _

end BundleResponse

/-- The verdict in the body of a response. -/
def verdict? (body : List UInt8) : Option Verification := do
  let r ← ofBody? BundleResponse.ofDraft? body
  r.verification.toOption

end Registry

namespace Directory

open Registry

lemma followsFlags_verify (d : Directory) (id signature : String) (claims : ClaimSet) :
    (d.verify id signature claims).FollowsFlags := by
  unfold verify
  cases d.lookup id with
  | none => exact Verification.followsFlags_new _ _ _
  | some r => exact Verification.followsFlags_new _ _ _

/-- What a directory answers to the body of a bundle request. -/
def serve? (d : Directory) (body : List UInt8) : Option (List UInt8) := do
  let r ← ofBody? BundleRequest.ofDraft? body
  return Text.utf8
    (BundleResponse.ofVerification (d.verify r.participant r.signature r.claims)).json.text

/-- **Nothing changes a verdict or registered claims on their way**: a request that is sent,
read, verified and answered in bytes comes to the flags that verifying it at once gives, and
registered claims arrive equal and with the same signed bytes. -/
theorem verdict?_serve? (d : Directory) :
    (∀ r : BundleRequest, r.claims.json.depth ≤ 126 → r.claims.RealsReadBack →
      ∃ v, (d.serve? (Text.utf8 r.json.text)).bind verdict? = some v ∧
        v.signature = (d.verify r.participant r.signature r.claims).signature ∧
        v.claims = (d.verify r.participant r.signature r.claims).claims ∧
        v.success = (d.verify r.participant r.signature r.claims).success) ∧
    ∀ c : ClaimSet, c.json.depth ≤ 126 → c.RealsReadBack →
      ∃ p, ofBody? ClaimsResponse.ofDraft? (Text.utf8 (ClaimsResponse.mk c).json.text) = some p ∧
        p.claims.same c = true ∧ p.claims.canonical = c.canonical := by
  refine ⟨fun r hdepth hreals => ?_, fun c hdepth hreals => ?_⟩
  · obtain ⟨v, hv, hsignature, hclaims⟩ := BundleResponse.verification_ofVerification
      (d.verify r.participant r.signature r.claims)
    refine ⟨v, ?_, hsignature, hclaims, ?_⟩
    · rw [serve?, BundleRequest.ofBody?_json hdepth hreals]
      simp [verdict?, BundleResponse.ofBody?_json, hv, Except.toOption]
    · rw [BundleResponse.followsFlags_of_verification hv, followsFlags_verify, hsignature, hclaims]
  · exact ⟨⟨c⟩, ClaimsResponse.ofBody?_json hdepth hreals, c.same_self, rfl⟩

namespace Sample

/-- Claims with the greatest and the least whole number, a fraction and a set of their own. -/
def claims : ClaimSet :=
  .ofList
    [("address", (ClaimSet.ofList [("city", .text "Delft \"D\"")]).claim),
      ("balance", .number (.negSucc ⟨0x7FFFFFFFFFFFFFFF, by omega⟩)),
      ("share", .number (.real ⟨0x3FE0000000000000⟩ rfl)),
      ("tokens", .number (.natural 0xFFFFFFFFFFFFFFFF))]

def directory : Directory := empty.register "alice" ⟨"", claims⟩

lemma realsReadBack_claims : claims.RealsReadBack := by
  intro x hx hmem
  have hnumbers : claims.json.numbers = [.negSucc ⟨0x7FFFFFFFFFFFFFFF, by omega⟩,
      .real ⟨0x3FE0000000000000⟩ rfl, .natural 0xFFFFFFFFFFFFFFFF] := by decide
  have hchars : (Json.Number.real ⟨0x3FE0000000000000⟩ rfl).chars = ['0', '.', '5'] := by
    decide +kernel
  have hhalf : (Json.Number.real ⟨0x3FE0000000000000⟩ rfl).ReadsBack :=
    Json.Number.readsBack_iff.2
      ⟨⟨false, ['0'], ['5'], none⟩, by rw [hchars]; rfl, by decide +kernel⟩
  simp only [hnumbers, List.mem_cons, reduceCtorEq, List.not_mem_nil, false_or, or_false] at hmem
  exact hmem ▸ hhalf

end Sample

theorem verdict?_serve?_sample :
    Sample.claims.json.depth ≤ 126 ∧ Sample.claims.RealsReadBack ∧
      (∃ v, (Sample.directory.serve? (Text.utf8
          (BundleRequest.mk "alice" "c2ln" Sample.claims).json.text)).bind verdict? = some v ∧
        v.signature = false ∧ v.claims = true ∧ v.success = false) ∧
      ∃ p, ofBody? ClaimsResponse.ofDraft?
          (Text.utf8 (ClaimsResponse.mk Sample.claims).json.text) = some p ∧
        p.claims.same Sample.claims = true ∧ p.claims.canonical = Sample.claims.canonical := by
  have hdepth : Sample.claims.json.depth ≤ 126 := by decide
  have hreals := Sample.realsReadBack_claims
  obtain ⟨hbundle, hclaims⟩ := verdict?_serve? Sample.directory
  refine ⟨hdepth, hreals, ?_, hclaims Sample.claims hdepth hreals⟩
  obtain ⟨v, hv, h1, h2, h3⟩ := hbundle ⟨"alice", "c2ln", Sample.claims⟩ hdepth hreals
  exact ⟨v, hv, h1.trans (by decide +kernel), h2.trans (by decide +kernel),
    h3.trans (by decide +kernel)⟩

end Directory

end Attestation
