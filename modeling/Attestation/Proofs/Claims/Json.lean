import Attestation.Claims.Basic
import Attestation.Proofs.Keyed

/-!
A claim set is read back from its JSON value.
-/

namespace Attestation

namespace ClaimValue

/-- Induction over the claims that a claim is made of. -/
theorem induction {motive : ClaimValue → Prop} (text : ∀ s, motive (.text s))
    (flag : ∀ b, motive (.flag b)) (number : ∀ n, motive (.number n))
    (nested : ∀ members : List (String × ClaimValue), (∀ m ∈ members, motive m.2) →
      motive (.nested members)) : ∀ v, motive v
  | .text s => text s
  | .flag b => flag b
  | .number n => number n
  | .nested members => nested members fun ⟨_, v⟩ _ => induction text flag number nested v
termination_by v => sizeOf v
decreasing_by
  have := List.sizeOf_lt_of_mem ‹_ ∈ members›
  rw [Prod.mk.sizeOf_spec] at this
  rw [ClaimValue.nested.sizeOf_spec]
  omega

lemma membersOfDraft?_jsonMembers {ms : List (String × ClaimValue)}
    (h : ∀ m ∈ ms, ofDraft? m.2.json.draft = some m.2) :
    membersOfDraft? (Json.draftMembers (jsonMembers ms)) = some ms := by
  induction ms with
  | nil => rfl
  | cons m ms ih =>
    obtain ⟨k, v⟩ := m
    have hv : ofDraft? v.json.draft = some v := h (k, v) List.mem_cons_self
    rw [jsonMembers, Json.draftMembers, membersOfDraft?, hv,
      ih fun m hm => h m (List.mem_cons_of_mem _ hm)]
    rfl

/-- Reading undoes writing. -/
lemma ofDraft?_json {v : ClaimValue} (h : v.Ordered) : ofDraft? v.json.draft = some v := by
  induction v using induction with
  | nested ms ih =>
    obtain ⟨hinc, hall⟩ := orderedMembers_iff.1 h
    rw [json, Json.draft, ofDraft?, membersOfDraft?_jsonMembers fun m hm => ih m hm (hall m hm),
      Option.map_some, Keyed.ofList_of_increasing hinc]
  | _ => rfl

lemma keys_jsonMembers (ms : List (String × ClaimValue)) :
    Keyed.keys (jsonMembers ms) = Keyed.keys ms := by
  induction ms with
  | nil => rfl
  | cons m ms ih =>
    obtain ⟨k, v⟩ := m
    exact congrArg (k :: ·) ih

lemma orderedMembers_jsonMembers {ms : List (String × ClaimValue)} (h : OrderedMembers ms)
    (hall : ∀ m ∈ ms, m.2.Ordered → m.2.json.Ordered) : Json.OrderedMembers (jsonMembers ms) := by
  induction ms with
  | nil => trivial
  | cons m ms ih =>
    obtain ⟨k, v⟩ := m
    obtain ⟨hlt, hv, hrest⟩ := h
    rw [jsonMembers, Json.OrderedMembers, keys_jsonMembers]
    exact ⟨hlt, hall (k, v) List.mem_cons_self hv,
      ih hrest fun m hm => hall m (List.mem_cons_of_mem _ hm)⟩

lemma ordered_json {v : ClaimValue} (h : v.Ordered) : v.json.Ordered := by
  induction v using induction with
  | nested ms ih => exact orderedMembers_jsonMembers h ih
  | _ => trivial

end ClaimValue

namespace ClaimSet

/-- **A claim set is read back from its JSON value.** -/
theorem ofJson?_json (s : ClaimSet) : ofJson? s.json = some s := by
  obtain ⟨hinc, hall⟩ := ClaimValue.orderedMembers_iff.1 s.ordered
  have hread := ClaimValue.membersOfDraft?_jsonMembers fun m hm =>
    ClaimValue.ofDraft?_json (hall m hm)
  simp only [ofJson?, json, Json.draft, ofDraft?]
  split
  · rename_i ms hms
    rw [hread] at hms
    cases hms
    simp only [Keyed.ofList_of_increasing hinc]
  · rename_i hms
    rw [hread] at hms
    cases hms

/-- The keys increase in the JSON value of a claim set as they do in the set. -/
lemma ordered_json (s : ClaimSet) : s.json.Ordered :=
  ClaimValue.orderedMembers_jsonMembers s.ordered fun _ _ => ClaimValue.ordered_json

lemma json_injective {s t : ClaimSet} (h : s.json = t.json) : s = t := by
  have hs := s.ofJson?_json
  rw [h, t.ofJson?_json] at hs
  exact (Option.some.inj hs).symm

end ClaimSet

end Attestation
