import Attestation.Proofs.Claims.Routes
import Attestation.Proofs.Json.Value

/-!
Claim sets and the JSON objects that can be claimed are the same thing.

Nothing is changed or dropped between them at any depth, be it the kind of a number or the sign
of a zero.
-/

namespace Attestation

namespace Json

/-- Strings, flags and numbers can be claimed, and so can objects of what can be claimed. Nulls
and lists cannot. -/
inductive Claimable : Json → Prop
  | string (s : String) : Claimable (.string s)
  | bool (b : Bool) : Claimable (.bool b)
  | number (n : Number) : Claimable (.number n)
  | object {members : List (String × Json)} (h : ∀ m ∈ members, Claimable m.2) :
    Claimable (.object members)

lemma claimable_object_iff {members : List (String × Json)} :
    (Json.object members).Claimable ↔ ∀ m ∈ members, m.2.Claimable :=
  ⟨fun h => by cases h with | object h => exact h, .object⟩

end Json

namespace ClaimValue

lemma exists_membersOfDraft?_iff {ms : List (String × Json)}
    (h : ∀ m ∈ ms, (∃ c, ofDraft? m.2.draft = some c) ↔ m.2.Claimable) :
    (∃ cs, membersOfDraft? (Json.draftMembers ms) = some cs) ↔ ∀ m ∈ ms, m.2.Claimable := by
  induction ms with
  | nil => simp [Json.draftMembers, membersOfDraft?]
  | cons m ms ih =>
    obtain ⟨k, v⟩ := m
    have hv := h (k, v) List.mem_cons_self
    have hms := ih fun m hm => h m (List.mem_cons_of_mem _ hm)
    rw [List.forall_mem_cons, ← hv, ← hms]
    simp only [Json.draftMembers, membersOfDraft?, Option.bind_eq_bind, Option.bind_eq_some_iff,
      Option.some.injEq, exists_eq_left']
    constructor
    · rintro ⟨-, c, hc, cs, hcs, -⟩
      exact ⟨⟨c, hc⟩, cs, hcs⟩
    · rintro ⟨⟨c, hc⟩, cs, hcs⟩
      exact ⟨(k, c) :: cs, c, hc, cs, hcs, rfl⟩

/-- A claim is read exactly from what can be claimed. -/
lemma exists_ofDraft?_iff (v : Json) : (∃ c, ofDraft? v.draft = some c) ↔ v.Claimable := by
  induction v using Json.induction with
  | object ms ih =>
    rw [Json.claimable_object_iff, ← exists_membersOfDraft?_iff ih, Json.draft, ofDraft?]
    simp only [Option.map_eq_some_iff]
    constructor
    · rintro ⟨-, cs, hcs, -⟩
      exact ⟨cs, hcs⟩
    · rintro ⟨cs, hcs⟩
      exact ⟨_, cs, hcs, rfl⟩
  | string s => exact ⟨fun _ => .string s, fun _ => ⟨_, rfl⟩⟩
  | bool b => exact ⟨fun _ => .bool b, fun _ => ⟨_, rfl⟩⟩
  | number n => exact ⟨fun _ => .number n, fun _ => ⟨_, rfl⟩⟩
  | null | array =>
    constructor
    · rintro ⟨c, hc⟩
      cases hc
    · rintro ⟨⟩

end ClaimValue

namespace ClaimSet

lemma claimsOfJson_eq_ok_iff {v : Json} {s : ClaimSet} :
    Agent.claimsOfJson v = .ok s ↔ ofJson? v = some s := by
  rw [Agent.claimsOfJson]
  cases ofJson? v <;> simp

lemma exists_ofJson?_iff (v : Json) :
    (∃ s, ofJson? v = some s) ↔ ∃ members, v = .object members ∧ ∀ m ∈ members, m.2.Claimable := by
  simp only [ofJson?, ofDraft?_eq_some_iff]
  constructor
  · rintro ⟨s, hs⟩
    have hclaimable := (ClaimValue.exists_ofDraft?_iff v).1 ⟨_, hs⟩
    cases v with
    | object members => exact ⟨members, rfl, Json.claimable_object_iff.1 hclaimable⟩
    | string | bool | number | null | array => simp [Json.draft, ClaimValue.ofDraft?] at hs
  · rintro ⟨members, rfl, hmembers⟩
    obtain ⟨c, hc⟩ := (ClaimValue.exists_ofDraft?_iff _).2 (Json.claimable_object_iff.2 hmembers)
    obtain ⟨ms, -, rfl⟩ := Option.map_eq_some_iff.1 hc
    exact ⟨⟨_, ClaimValue.ordered_of_ofDraft? _ hc⟩, hc⟩

lemma ofJson?_eq_some_iff {v : Json} (hv : v.Ordered) {s : ClaimSet} :
    ofJson? v = some s ↔ s.json = v := by
  constructor
  · intro h
    have hvalue := (ClaimValue.faithful v.draft _ (ofDraft?_eq_some_iff.1 h)).1
    rw [Json.value?_draft hv] at hvalue
    exact (Option.some.inj hvalue).symm
  · rintro rfl
    exact s.ofJson?_json

lemma json_eq_object_nil_iff {s : ClaimSet} : s.json = .object [] ↔ s = .empty :=
  ⟨fun h => json_injective h, fun h => h ▸ rfl⟩

/-- **A claim set is read exactly from the objects that can be claimed, and it is the one with
that value**, as long as the keys increase there. Every claim set is read back from its value,
and the empty object is the value of none but the empty set. -/
theorem correspondence (v : Json) :
    ((∃ s, Agent.claimsOfJson v = .ok s) ↔
        ∃ members, v = .object members ∧ ∀ m ∈ members, m.2.Claimable) ∧
      (v.Ordered → ∀ s, Agent.claimsOfJson v = .ok s ↔ s.json = v) ∧
      ∀ s : ClaimSet, Agent.claimsOfJson s.json = .ok s ∧ (s.json = .object [] ↔ s = .empty) := by
  simp only [claimsOfJson_eq_ok_iff]
  exact ⟨exists_ofJson?_iff v, fun hv s => ofJson?_eq_some_iff hv,
    fun s => ⟨s.ofJson?_json, json_eq_object_nil_iff⟩⟩

namespace Sample

/-- Numbers of each kind that are close to one another, some of them nested. -/
def numbers : Json :=
  .object [("debt", .object [("float", .number (.real Numeral.Double.zero.neg rfl)),
    ("whole", .number (.negSucc 0))]), ("zero", .number (.real Numeral.Double.zero rfl)),
    ("zeros", .nat 0)]

end Sample

theorem correspondence_sample :
    Sample.numbers.Ordered ∧ ∃ s, Agent.claimsOfJson Sample.numbers = .ok s ∧
      s.json = Sample.numbers := by
  have hordered : Sample.numbers.Ordered :=
    ⟨by decide, ⟨by decide, trivial, by decide, trivial, trivial⟩, by decide, trivial,
      by decide, trivial, trivial⟩
  obtain ⟨hread, hvalue, -⟩ := correspondence Sample.numbers
  obtain ⟨s, hs⟩ := hread.2 ⟨_, rfl, by
    simp [Json.claimable_object_iff, Json.Claimable.number, Json.nat]⟩
  exact ⟨hordered, s, hs, (hvalue hordered s).1 hs⟩

end ClaimSet

end Attestation
