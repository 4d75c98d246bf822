import Attestation.Proofs.Json.Reading
import Attestation.Proofs.Keyed

/-!
A value whose objects have increasing keys is read back from its text.
-/

namespace Attestation.Json

lemma orderedItems_iff {items : List Json} : OrderedItems items ↔ ∀ v ∈ items, v.Ordered := by
  induction items with
  | nil => simp [OrderedItems]
  | cons v rest ih => rw [OrderedItems, ih, List.forall_mem_cons]

lemma orderedMembers_iff {members : List (String × Json)} :
    OrderedMembers members ↔ Keyed.Increasing members ∧ ∀ m ∈ members, m.2.Ordered := by
  induction members with
  | nil => simp [OrderedMembers]
  | cons m rest ih =>
    obtain ⟨k, v⟩ := m
    rw [OrderedMembers, ih, Keyed.increasing_cons, List.forall_mem_cons]
    exact ⟨fun ⟨a, b, c, d⟩ => ⟨⟨a, c⟩, b, d⟩, fun ⟨⟨a, c⟩, b, d⟩ => ⟨a, b, c, d⟩⟩

lemma itemValues?_draftItems {items : List Json} (h : ∀ v ∈ items, v.draft.value? = some v) :
    Draft.itemValues? (draftItems items) = some items := by
  induction items with
  | nil => rfl
  | cons v rest ih =>
    rw [draftItems, Draft.itemValues?, h v List.mem_cons_self,
      ih fun w hw => h w (List.mem_cons_of_mem v hw)]
    rfl

lemma memberValues?_draftMembers {members : List (String × Json)}
    (h : ∀ m ∈ members, m.2.draft.value? = some m.2) :
    Draft.memberValues? (draftMembers members) = some members := by
  induction members with
  | nil => rfl
  | cons m rest ih =>
    obtain ⟨k, v⟩ := m
    have hv : v.draft.value? = some v := h (k, v) List.mem_cons_self
    rw [draftMembers, Draft.memberValues?, hv, ih fun m hm => h m (List.mem_cons_of_mem _ hm)]
    rfl

lemma draftMembers_eq_map (members : List (String × Json)) :
    draftMembers members = members.map fun m => (some m.1, m.2.draft) := by
  induction members with
  | nil => rfl
  | cons m rest ih => rw [draftMembers, ih, List.map_cons]

/-- The value of the draft that spells it out. -/
lemma value?_draft {v : Json} (h : v.Ordered) : v.draft.value? = some v := by
  induction v using induction with
  | array items ih =>
    have hitems := orderedItems_iff.1 h
    rw [draft, Draft.value?, itemValues?_draftItems fun v hv => ih v hv (hitems v hv)]
    rfl
  | object members ih =>
    obtain ⟨hinc, hmembers⟩ := orderedMembers_iff.1 h
    rw [draft, Draft.value?, memberValues?_draftMembers fun m hm => ih m hm (hmembers m hm),
      Option.map_some, Keyed.ofList_of_increasing hinc]
  | null | bool | number | string => rfl

/-! ### Values of drafts -/

lemma orderedMembers_ofList {members : List (String × Json)} (h : ∀ m ∈ members, m.2.Ordered) :
    OrderedMembers (Keyed.ofList members) :=
  orderedMembers_iff.2 ⟨Keyed.increasing_ofList members, fun m hm => h m (Keyed.mem_ofList hm)⟩

mutual

/-- Whatever is read, its keys increase. -/
theorem ordered_of_value? : ∀ (d : Draft) {v : Json}, d.value? = some v → v.Ordered
  | .null, v, h => by
    cases h
    trivial
  | .bool b, v, h => by
    cases h
    trivial
  | .number n, v, h => by
    obtain ⟨n, -, rfl⟩ := Option.map_eq_some_iff.1 h
    trivial
  | .string s, v, h => by
    obtain ⟨s, -, rfl⟩ := Option.map_eq_some_iff.1 h
    trivial
  | .array items, v, h => by
    obtain ⟨vs, hvs, rfl⟩ := Option.map_eq_some_iff.1 h
    exact orderedItems_iff.2 (ordered_of_itemValues? items hvs)
  | .object members, v, h => by
    obtain ⟨ms, hms, rfl⟩ := Option.map_eq_some_iff.1 h
    exact orderedMembers_ofList (ordered_of_memberValues? members hms)
  | .tooDeep, v, h => by simp [Draft.value?] at h

theorem ordered_of_itemValues? : ∀ (ds : List Draft) {vs : List Json},
    Draft.itemValues? ds = some vs → ∀ v ∈ vs, v.Ordered
  | [], vs, h => by
    cases h
    simp
  | d :: rest, vs, h => by
    simp only [Draft.itemValues?, Option.bind_eq_bind, Option.bind_eq_some_iff] at h
    obtain ⟨v, hv, vs', hvs, h⟩ := h
    cases h
    exact List.forall_mem_cons.2 ⟨ordered_of_value? d hv, ordered_of_itemValues? rest hvs⟩

theorem ordered_of_memberValues? : ∀ (ds : List (Option String × Draft))
    {ms : List (String × Json)}, Draft.memberValues? ds = some ms → ∀ m ∈ ms, m.2.Ordered
  | [], ms, h => by
    cases h
    simp
  | (k, d) :: rest, ms, h => by
    simp only [Draft.memberValues?, Option.bind_eq_bind, Option.bind_eq_some_iff] at h
    obtain ⟨k', -, v, hv, ms', hms, h⟩ := h
    cases h
    exact List.forall_mem_cons.2 ⟨ordered_of_value? d hv, ordered_of_memberValues? rest hms⟩

end

/-- An object without numbers in which nothing is nested is read back from its texts. -/
lemma draftParse_of_flat {members : List (String × Json)}
    (h : ∀ m ∈ members, m.2.depth = 0 ∧ m.2.numbers = []) {t : String}
    (ht : t ∈ (Json.object members).texts) :
    Draft.parse t.toList = some (Json.object members).draft := by
  have hflat : depthMembers members = 0 ∧ numbersOfMembers members = [] := by
    clear ht
    induction members with
    | nil => exact ⟨rfl, rfl⟩
    | cons m rest ih =>
      obtain ⟨⟨hdepth, hnumbers⟩, hrest⟩ := List.forall_mem_cons.1 h
      simp [depthMembers, numbersOfMembers, hdepth, hnumbers, ih hrest]
  refine draftParse_of_mem_texts ?_ ?_ ht
  · simp [depth, hflat.1, depthLimit]
  · simp [numbers, hflat.2]

/-- **A value is read back from its texts** as long as its keys increase, it is not nested deeper
than is read, and its binary64 numbers are read back from their own texts. -/
theorem parse_of_mem_texts {v : Json} (h : v.Ordered) (hdepth : v.depth < depthLimit)
    (hreals : ∀ x hx, .real x hx ∈ v.numbers → (Number.real x hx).ReadsBack) {t : String}
    (ht : t ∈ v.texts) : parse t = some v := by
  rw [parse, draftParse_of_mem_texts hdepth hreals ht, Option.bind_some, value?_draft h]

end Attestation.Json
