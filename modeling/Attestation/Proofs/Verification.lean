import Attestation.Proofs.Json.Record
import Attestation.Proofs.Json.Value
import Attestation.Proofs.Keyed
import Attestation.Proofs.Registry.Boundary
import Attestation.Proofs.Registry.Wire
import Attestation.Proofs.Text.Order
import Attestation.Registry.Directory

/-!
What the results of verifications claim.

However a result comes about, its flags are those of what it was made from, and the success that
it holds is that of both flags: whatever makes a result makes it from its flags, also where it is
read and a success is stated. Just the results of that kind are read back from their JSON, and
they keep their flags on the way through a response of the registry.
-/

namespace Attestation

open Json (Draft)
open Registry (BundleResponse)

namespace Verification

variable {v : Verification}

/-! ### Reading -/

/-- A record of the two flags and of the message, which may be left out. -/
inductive SpelledBy (v : Verification) : Draft → Prop where
  | object {members : List (Option String × Draft)} (names : ∀ m ∈ members, m.1.isSome = true)
    (signature : Draft.NamesOnce members "signatureResult" (.bool v.signature))
    (claims : Draft.NamesOnce members "claimsResult" (.bool v.claims))
    (message : Draft.NamesOnce members "message" (.string (some v.message)) ∨
      (∀ m ∈ members, m.1 ≠ some "message") ∧ v.message = "") : SpelledBy v (.object members)
  | array : SpelledBy v (.array [.bool v.signature, .bool v.claims, .string (some v.message)])
  | cutOff (message : v.message = "") : SpelledBy v (.array [.bool v.signature, .bool v.claims])

/-- What a reader looks for. -/
def fieldNames : List String := ["signatureResult", "claimsResult", "message"]

lemma ofDraft?_eq_some_iff_fields {d : Draft} : ofDraft? d = some v ↔ v.FollowsFlags ∧
    ∃ message, d.fields? fieldNames = some [.given (.bool v.signature), .given (.bool v.claims),
      message] ∧ message.withDefault "" Draft.string? = some v.message := by
  unfold ofDraft? fieldNames
  simp only [Option.bind_eq_bind, Option.bind_eq_some_iff]
  constructor
  · rintro ⟨fields, hfields, h⟩
    split at h
    · simp only [Option.bind_eq_some_iff, Json.Field.required_eq_some_iff,
        Draft.bool?_eq_some_iff] at h
      obtain ⟨signature, ⟨_, rfl, rfl⟩, claims, ⟨_, rfl, rfl⟩, text, htext, h⟩ := h
      cases h
      exact ⟨followsFlags_new _ _ _, _, hfields, htext⟩
    · cases h
  · rintro ⟨hflags, message, hfields, hmessage⟩
    refine ⟨_, hfields, ?_⟩
    simp [Json.Field.required, Draft.bool?, hmessage, new_eq_self_iff.2 hflags]

lemma object_fields?_iff {members : List (Option String × Draft)} {signature claims : Draft}
    {message : Json.Field} :
    (Draft.object members).fields? fieldNames =
        some [.given signature, .given claims, message] ↔
      (∀ m ∈ members, m.1.isSome = true) ∧
        Draft.NamesOnce members "signatureResult" signature ∧
        Draft.NamesOnce members "claimsResult" claims ∧
        Draft.memberField? members "message" = some message := by
  simp only [← Draft.memberField?_eq_given_iff, ← List.all_eq_true, Draft.fields?, fieldNames]
  split_ifs with h
  · simp [h, List.mapM_cons, Option.bind_eq_some_iff]
  · simp [h]

lemma array_fields?_iff {items : List Draft} {signature claims : Draft} {message : Json.Field} :
    (Draft.array items).fields? fieldNames = some [.given signature, .given claims, message] ↔
      (items = [signature, claims] ∧ message = .cutOff) ∨
        ∃ d, items = [signature, claims, d] ∧ message = .given d := by
  have hfields : (Draft.array items).fields? fieldNames = Draft.itemFields? 3 items := rfl
  rw [hfields]
  rcases items with _ | ⟨a, _ | ⟨b, _ | ⟨c, _ | ⟨d, rest⟩⟩⟩⟩ <;>
    simp [Draft.itemFields?, and_assoc, eq_comm (a := message)]

/-- The records of the flags and the message of a result are those that have these fields. -/
lemma spelledBy_iff_fields {d : Draft} : v.SpelledBy d ↔
    ∃ message, d.fields? fieldNames = some [.given (.bool v.signature), .given (.bool v.claims),
      message] ∧ message.withDefault "" Draft.string? = some v.message := by
  symm
  constructor
  · rintro ⟨message, hfields, hmessage⟩
    rw [Json.Field.withDefault_eq_some_iff] at hmessage
    simp only [Draft.string?_eq_some_iff] at hmessage
    cases d with
    | object members =>
      obtain ⟨hnames, hsignature, hclaims, hfield⟩ := object_fields?_iff.1 hfields
      refine .object hnames hsignature hclaims ?_
      rcases hmessage with ⟨d, rfl, rfl⟩ | ⟨rfl | rfl, hempty⟩
      · exact .inl (Draft.memberField?_eq_given_iff.1 hfield)
      · exact .inr ⟨Draft.memberField?_eq_absent_iff.1 hfield, hempty⟩
      · unfold Draft.memberField? at hfield
        split at hfield <;> cases hfield
    | array items =>
      rcases array_fields?_iff.1 hfields with ⟨rfl, rfl⟩ | ⟨d, rfl, rfl⟩
      · exact .cutOff (by simpa using hmessage)
      · obtain rfl : d = .string (some v.message) := by simpa using hmessage
        exact .array
    | _ => simp [Draft.fields?] at hfields
  · intro h
    cases h with
    | object hnames hsignature hclaims hmessage =>
      rcases hmessage with hmessage | ⟨hnone, hempty⟩
      · exact ⟨.given (.string (some v.message)), object_fields?_iff.2 ⟨hnames, hsignature, hclaims,
          Draft.memberField?_eq_given_iff.2 hmessage⟩, rfl⟩
      · exact ⟨.absent, object_fields?_iff.2 ⟨hnames, hsignature, hclaims,
          Draft.memberField?_eq_absent_iff.2 hnone⟩, congrArg some hempty.symm⟩
    | array => exact ⟨_, array_fields?_iff.2 (.inr ⟨_, rfl, rfl⟩), rfl⟩
    | cutOff hempty => exact ⟨_, array_fields?_iff.2 (.inl ⟨rfl, rfl⟩), congrArg some hempty.symm⟩

/-- **A result is read from the records of its flags and its message**, whatever else is there,
and its success follows from its flags. -/
theorem ofDraft?_eq_some_iff {d : Draft} :
    ofDraft? d = some v ↔ v.SpelledBy d ∧ v.FollowsFlags := by
  rw [ofDraft?_eq_some_iff_fields, spelledBy_iff_fields, and_comm]

/-- A stated success is not looked at. -/
lemma ofDraft?_insert_success (before after : List (Option String × Draft)) (stated : Draft) :
    ofDraft? (.object (before ++ (some "success", stated) :: after)) =
      ofDraft? (.object (before ++ after)) := by
  rw [ofDraft?, Draft.fields?_insert (by decide), ofDraft?]

/-! ### Writing -/

/-- The members of the JSON of a result, in the order of its fields. -/
def members (v : Verification) : List (String × Json) :=
  [("signatureResult", .bool v.signature), ("claimsResult", .bool v.claims),
    ("success", .bool v.success), ("message", .string v.message)]

lemma namespaced_eq (ns : String) : v.namespaced ns =
    .object (Keyed.mapKeys (ns ++ ·) (Keyed.ofList v.members)) := by
  rw [← Keyed.ofList_mapKeys fun _ _ => Text.append_lt_append_iff ns]
  rfl

lemma json_eq : v.json = .object (Keyed.ofList v.members) := by
  rw [json, namespaced_eq]
  simp [Keyed.mapKeys]

lemma ofList_members_perm (v : Verification) : (Keyed.ofList v.members).Perm v.members :=
  Keyed.ofList_perm (by simp [Keyed.keys, members])

/-! ### Reading back -/

section Permuted

variable {ms : List (String × Json)} (h : ms.Perm v.members)

include h

/-- What is read is the result that the flags and the message make. -/
lemma ofDraft?_of_perm :
    ofDraft? (Json.object ms).draft = some (new v.signature v.claims v.message) := by
  have hdrafts : (Json.draftMembers ms).Perm (Json.draftMembers v.members) := by
    rw [Json.draftMembers_eq_map, Json.draftMembers_eq_map]
    exact h.map _
  have hread : ofDraft? (Json.object v.members).draft =
      some (new v.signature v.claims v.message) := by
    simp [ofDraft?, members, Json.draft, Json.draftMembers, Draft.fields?, Draft.memberField?,
      Draft.membersAt, Json.Field.required, Json.Field.withDefault, Draft.bool?, Draft.string?]
  rw [← hread, ofDraft?, Json.draft, Draft.fields?_perm hdrafts, ofDraft?, Json.draft]

/-- The same of a text of the members in any order. -/
lemma draftParse_of_perm {t : String} (ht : t ∈ (Json.object ms).texts) :
    (Draft.parse t.toList).bind ofDraft? = some (new v.signature v.claims v.message) := by
  have hflat : ∀ m ∈ ms, m.2.depth = 0 ∧ m.2.numbers = [] := by
    simp [h.mem_iff, members, Json.depth, Json.numbers]
  rw [Json.draftParse_of_flat hflat ht, Option.bind_some, ofDraft?_of_perm h]

end Permuted

/-! ### What is claimed -/

/-- The result has these flags and is a success just if both are set, and its JSON says the same
under every namespace. -/
structure Asserts (v : Verification) (signature claims : Bool) : Prop where
  signature_eq : v.signature = signature
  claims_eq : v.claims = claims
  success_eq : v.success = (signature && claims)
  written (ns : String) :
    (v.namespaced ns).get? (ns ++ "signatureResult") = some (.bool signature) ∧
      (v.namespaced ns).get? (ns ++ "claimsResult") = some (.bool claims) ∧
      (v.namespaced ns).get? (ns ++ "success") = some (.bool (signature && claims))

lemma asserts (h : v.FollowsFlags) : v.Asserts v.signature v.claims where
  signature_eq := rfl
  claims_eq := rfl
  success_eq := h
  written ns := by
    have hsuccess : v.success = (v.signature && v.claims) := h
    simp [namespaced, Json.get?, Keyed.ofList, Keyed.find?_insert, Keyed.find?, hsuccess]

/-- The flags decide what is asserted by a result whose success follows from them. -/
lemma asserts_iff {signature claims : Bool} : v.Asserts signature claims ↔
    v.signature = signature ∧ v.claims = claims ∧ v.FollowsFlags := by
  constructor
  · rintro ⟨rfl, rfl, hsuccess, -⟩
    exact ⟨rfl, rfl, hsuccess⟩
  · rintro ⟨rfl, rfl, h⟩
    exact asserts h

/-- The ways in which a result comes about. -/
inductive Obtained : Verification → Prop where
  | new (signature claims : Bool) (message : String) : Obtained (.new signature claims message)
  | failed (message : String) : Obtained (.failed message)
  | read {d : Draft} {v : Verification} (h : ofDraft? d = some v) : Obtained v
  | response {r : BundleResponse} {v : Verification} (h : r.verification = .ok v) : Obtained v
  | directory (d : Directory) (id signature : String) (claims : ClaimSet) :
    Obtained (d.verify id signature claims)

/-- **Every way to a result keeps the success that it holds at that of its flags.** -/
theorem followsFlags_of_obtained (h : v.Obtained) : v.FollowsFlags := by
  cases h with
  | new signature claims message => exact followsFlags_new _ _ _
  | failed message => exact followsFlags_new _ _ _
  | read h => exact (ofDraft?_eq_some_iff.1 h).2
  | response h => exact BundleResponse.followsFlags_of_verification h
  | directory d id signature claims => exact d.followsFlags_verify id signature claims

/-- However a result comes about, it claims what it is made from and no more. -/
structure Truthful : Prop where
  new (signature claims : Bool) (message : String) :
    (Verification.new signature claims message).Asserts signature claims
  failed (message : String) : (failed message).Asserts false false
  read (d : Draft) (v : Verification) :
    ofDraft? d = some v ↔ v.SpelledBy d ∧ v.Asserts v.signature v.claims
  stated (before after : List (Option String × Draft)) (success : Draft) :
    ofDraft? (.object (before ++ (some "success", success) :: after)) =
      ofDraft? (.object (before ++ after))
  response (r : BundleResponse) (signature claims : Bool) :
    (∃ v, r.verification = .ok v ∧ v.Asserts signature claims) ↔
      r.signature.Says signature ∧ r.claims.Says claims
  directory (d : Directory) (id signature : String) (claims : ClaimSet) :
    (d.verify id signature claims).Asserts
      ((d.lookup id).any fun r => verifySignaturePem r.publicKeyPem signature claims)
      ((d.lookup id).any fun r => r.claims.same claims)

/-- The forms of a result agree: JSON with the members in any order, a response of the registry,
and JSON under a namespace. -/
structure Consistent (v : Verification) : Prop where
  read {ms : List (String × Json)} (h : ms.Perm v.members) :
    ofDraft? (Json.object ms).draft = some v ∧
      ∀ t ∈ (Json.object ms).texts, (Draft.parse t.toList).bind ofDraft? = some v
  response : ∃ w, (BundleResponse.ofVerification v).verification = .ok w ∧
    w.Asserts v.signature v.claims
  namespaced : ∃ ms, v.json = .object ms ∧ ms.Perm v.members ∧ ms.length = 4 ∧
    ∀ ns, v.namespaced ns = .object (Keyed.mapKeys (ns ++ ·) ms)

lemma truthful : Truthful where
  new _ _ _ := asserts (followsFlags_new _ _ _)
  failed _ := asserts (followsFlags_new _ _ _)
  read _ v := by
    rw [ofDraft?_eq_some_iff, asserts_iff]
    simp
  stated := ofDraft?_insert_success
  response r signature claims := by
    rw [← BundleResponse.exists_verification_iff]
    refine exists_congr fun v => and_congr_right fun h => ?_
    simp [asserts_iff, BundleResponse.followsFlags_of_verification h]
  directory d id signature claims := by
    refine asserts_iff.2 ⟨?_, ?_, d.followsFlags_verify id signature claims⟩ <;>
      unfold Directory.verify <;> cases d.lookup id <;> rfl

/-- **The forms of a result agree just if its success follows from its flags.** -/
theorem consistent_iff : v.Consistent ↔ v.FollowsFlags := by
  constructor
  · intro h
    exact (ofDraft?_eq_some_iff.1 (h.read (List.Perm.refl _)).1).2
  · intro h
    have hnew := new_eq_self_iff.2 h
    obtain ⟨w, hw, hsignature, hclaims⟩ := BundleResponse.verification_ofVerification v
    have hasserts : w.Asserts v.signature v.claims := asserts_iff.2
      ⟨hsignature, hclaims, BundleResponse.followsFlags_of_verification hw⟩
    refine ⟨fun {ms} hperm => ⟨?_, fun t ht => ?_⟩, ⟨w, hw, hasserts⟩, Keyed.ofList v.members,
      v.json_eq, v.ofList_members_perm, v.ofList_members_perm.length_eq, v.namespaced_eq⟩
    · rw [ofDraft?_of_perm hperm, hnew]
    · rw [draftParse_of_perm hperm ht, hnew]

/-- **A result never claims more than its flags.** Whichever way it comes about, the success that
it holds is that of both flags, and these are the flags of what it is made from. All its forms
agree: it is read back from its JSON, its flags come out of a response as they went in, and JSON
under a namespace is its JSON with longer keys. -/
theorem claims_no_more_than_flags :
    Truthful ∧ ∀ v : Verification, v.Obtained → v.FollowsFlags ∧ v.Consistent := by
  refine ⟨truthful, fun v h => ?_⟩
  have hflags := followsFlags_of_obtained h
  exact ⟨hflags, consistent_iff.2 hflags⟩

namespace Sample

/-- A record that states a success which its flags do not bear out. -/
def lying : Draft :=
  .object
    [(some "success", .bool true), (some "signatureResult", .bool true),
      (some "claimsResult", .bool false), (some "message", .string (some "lying"))]

def result : Verification := .new true false "lying"

def response : BundleResponse := ⟨⟨" TRUE"⟩, ⟨"False"⟩⟩

end Sample

/-- The record that lies, a response, and a text that begins with the message. -/
theorem claims_no_more_than_flags_sample :
    ofDraft? Sample.lying = some Sample.result ∧ Sample.result.SpelledBy Sample.lying ∧
      Sample.result.Obtained ∧ Sample.result.success = false ∧
      Sample.result.Asserts true false ∧
      (Sample.response.signature.Says true ∧ Sample.response.claims.Says false) ∧
      ofDraft? (Json.object Sample.result.members.reverse).draft = some Sample.result ∧
      (Draft.parse (Json.object Sample.result.members.reverse).text.toList).bind ofDraft? =
        some Sample.result := by
  obtain ⟨htruthful, hobtained⟩ := claims_no_more_than_flags
  have hlying : ofDraft? Sample.lying = some Sample.result := rfl
  obtain ⟨hspelled, hasserts⟩ := (htruthful.read _ _).1 hlying
  have hresponse : Sample.response.verification =
      .ok (.new true false "Registry claims differ from asserted claims") := rfl
  have hsays := (htruthful.response Sample.response true false).1
    ⟨_, hresponse, htruthful.new true false _⟩
  obtain ⟨hflags, hconsistent⟩ := hobtained _ (.read hlying)
  obtain ⟨hread, htexts⟩ := hconsistent.read (List.reverse_perm _)
  exact ⟨hlying, hspelled, .read hlying, hflags, hasserts, hsays, hread,
    htexts _ List.mem_cons_self⟩

end Verification

end Attestation
