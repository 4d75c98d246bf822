import Attestation.Json.Record
import Mathlib.Data.List.Forall2
import Mathlib.Tactic.Common

/-!
What it takes to give every field of a record: an object that names each field once, or an
array of just the fields, in order.
-/

namespace Attestation.Json

namespace Draft

/-- Among the members just one is called `name`, and `d` stands under it. -/
def NamesOnce (members : List (Option String × Draft)) (name : String) (d : Draft) : Prop :=
  ∃ before after, members = before ++ (some name, d) :: after ∧
    ∀ m ∈ before ++ after, m.1 ≠ some name

/-- A record with the fields `names`, all given, whose drafts are `values`. -/
def Spells (names : List String) (values : List Draft) : Draft → Prop
  | .object members =>
    (∀ m ∈ members, m.1.isSome = true) ∧ List.Forall₂ (NamesOnce members) names values
  | .array items => items = values ∧ values.length = names.length
  | _ => False

variable {members : List (Option String × Draft)} {name : String} {d : Draft}

lemma membersAt_cons (m : Option String × Draft) (rest : List (Option String × Draft)) :
    membersAt name (m :: rest) = if m.1 = some name then m.2 :: membersAt name rest
      else membersAt name rest := by
  unfold membersAt
  rw [List.filterMap_cons]
  split_ifs <;> rfl

lemma membersAt_eq_nil_iff : membersAt name members = [] ↔ ∀ m ∈ members, m.1 ≠ some name := by
  simp [membersAt, List.filterMap_eq_nil_iff]

lemma membersAt_eq_singleton_iff : membersAt name members = [d] ↔ NamesOnce members name d := by
  constructor
  · intro h
    induction members with
    | nil => simp [membersAt] at h
    | cons m rest ih =>
      rw [membersAt_cons] at h
      split_ifs at h with hm
      · obtain ⟨k, e⟩ := m
        obtain ⟨rfl, hrest⟩ := List.cons.inj h
        obtain rfl : k = some name := hm
        exact ⟨[], rest, rfl, membersAt_eq_nil_iff.1 hrest⟩
      · obtain ⟨before, after, rfl, hother⟩ := ih h
        exact ⟨m :: before, after, rfl, List.forall_mem_cons.2 ⟨hm, hother⟩⟩
  · rintro ⟨before, after, rfl, hother⟩
    obtain ⟨h1, h2⟩ := List.forall_mem_append.1 hother
    rw [membersAt, List.filterMap_append, ← membersAt, ← membersAt, membersAt_eq_nil_iff.2 h1,
      membersAt_cons, membersAt_eq_nil_iff.2 h2]
    simp

lemma memberField?_eq_given_iff :
    memberField? members name = some (.given d) ↔ NamesOnce members name d := by
  rw [← membersAt_eq_singleton_iff, memberField?]
  split <;> simp_all

lemma mapM_memberField?_iff {names : List String} {values : List Draft} :
    names.mapM (memberField? members) = some (values.map .given) ↔
      List.Forall₂ (NamesOnce members) names values := by
  induction names generalizing values with
  | nil => cases values <;> simp
  | cons name names ih =>
    rw [List.mapM_cons]
    cases values with
    | nil => simp [Option.bind_eq_some_iff]
    | cons v values =>
      rw [List.forall₂_cons, ← ih, ← memberField?_eq_given_iff]
      simp [Option.bind_eq_some_iff]

lemma itemFields?_iff {n : ℕ} {items values : List Draft} :
    itemFields? n items = some (values.map .given) ↔ items = values ∧ values.length = n := by
  induction n generalizing items values with
  | zero => cases items <;> cases values <;> simp [itemFields?]
  | succ n ih =>
    cases items with
    | nil => cases values <;> simp [itemFields?]
    | cons d rest =>
      cases values with
      | nil => simp [itemFields?]
      | cons v values =>
        rw [itemFields?, List.map_cons, List.cons.injEq, List.length_cons, Nat.add_right_cancel_iff,
          and_assoc, ← ih, Option.map_eq_some_iff]
        simp only [List.cons.injEq, Field.given.injEq]
        constructor
        · rintro ⟨fields, hfields, rfl, rfl⟩
          exact ⟨rfl, hfields⟩
        · rintro ⟨rfl, hfields⟩
          exact ⟨_, hfields, rfl, rfl⟩

/-- A field is absent when no member is called so. -/
lemma memberField?_eq_absent_iff :
    memberField? members name = some .absent ↔ ∀ m ∈ members, m.1 ≠ some name := by
  rw [← membersAt_eq_nil_iff, memberField?]
  split <;> simp_all

/-- The order of the members makes no difference. -/
lemma memberField?_perm {members' : List (Option String × Draft)} (h : members.Perm members') :
    memberField? members name = memberField? members' name := by
  have hperm : (membersAt name members).Perm (membersAt name members') := h.filterMap _
  unfold memberField?
  match hms : membersAt name members, hms' : membersAt name members' with
  | [], _ => rw [hms, List.nil_perm, hms'] at hperm; rw [hperm]
  | [_], _ => rw [hms, List.singleton_perm, hms'] at hperm; rw [← hperm]
  | _ :: _ :: _, [] | _ :: _ :: _, [_] =>
    have hlength := hperm.length_eq
    simp [hms, hms'] at hlength
  | _ :: _ :: _, _ :: _ :: _ => rfl

lemma fields?_perm {members' : List (Option String × Draft)} (h : members.Perm members')
    (names : List String) : fields? names (.object members) = fields? names (.object members') := by
  have hfields : memberField? members = memberField? members' :=
    funext fun _ => memberField?_perm h
  simp only [fields?, h.all_eq, hfields]

/-- Members of other names are not looked at. -/
lemma fields?_insert {names : List String} (hname : name ∉ names)
    (before after : List (Option String × Draft)) (d : Draft) :
    fields? names (.object (before ++ (some name, d) :: after)) =
      fields? names (.object (before ++ after)) := by
  have hfield : ∀ other ∈ names, memberField? (before ++ (some name, d) :: after) other =
      memberField? (before ++ after) other := by
    intro other hother
    have hne : ¬ some name = some other := fun h => hname (Option.some.inj h ▸ hother)
    have hmembers : membersAt other (before ++ (some name, d) :: after) =
        membersAt other (before ++ after) := by
      simp [membersAt, hne]
    rw [memberField?, memberField?, hmembers]
  have hfields : names.mapM (memberField? (before ++ (some name, d) :: after)) =
      names.mapM (memberField? (before ++ after)) := by
    clear hname
    induction names with
    | nil => rfl
    | cons other names ih =>
      obtain ⟨hother, hnames⟩ := List.forall_mem_cons.1 hfield
      rw [List.mapM_cons, List.mapM_cons, hother, ih hnames]
  have hnames : ((before ++ (some name, d) :: after).all fun m => m.1.isSome) =
      (before ++ after).all fun m => m.1.isSome := by
    simp
  simp only [fields?, hnames, hfields]

/-- **All fields of a record are given exactly when it spells them out.** -/
theorem fields?_eq_given_iff {names : List String} {values : List Draft} :
    d.fields? names = some (values.map .given) ↔ d.Spells names values := by
  cases d with
  | object members =>
    rw [fields?, Spells, ← mapM_memberField?_iff, ← List.all_eq_true]
    split_ifs with h <;> simp [h]
  | array items => exact itemFields?_iff
  | _ => simp [fields?, Spells]

end Draft

lemma Field.required_eq_some_iff {α : Type} {read : Draft → Option α} {f : Field} {a : α} :
    f.required read = some a ↔ ∃ d, f = .given d ∧ read d = some a := by
  cases f <;> simp [required]

lemma Field.withDefault_eq_some_iff {α : Type} {default a : α} {read : Draft → Option α}
    {f : Field} : f.withDefault default read = some a ↔
      (∃ d, f = .given d ∧ read d = some a) ∨ (f = .absent ∨ f = .cutOff) ∧ a = default := by
  cases f <;> simp [withDefault, eq_comm]

lemma Draft.bool?_eq_some_iff {d : Draft} {b : Bool} : d.bool? = some b ↔ d = .bool b := by
  cases d <;> simp [bool?]

lemma Draft.string?_eq_some_iff {d : Draft} {s : String} :
    d.string? = some s ↔ d = .string (some s) := by
  cases d <;> simp [string?]

end Attestation.Json
