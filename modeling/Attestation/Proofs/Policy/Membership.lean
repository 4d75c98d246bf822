import Attestation.Policy.Rule
import Attestation.Proofs.Text.Runs
import Mathlib.Logic.Relation

/-!
Membership in a list.

What a list constraint comes to depends on the entries that its right operand names, and not on
the way the list is written: as an array, as a text with commas or as a scalar, in any order, with
repetitions, with white space around the entries and with blank entries between them. The rules that
allow the operator and the comparison for all other claims agree on what an entry is, and refuse a
list as a whole if one of its entries is no scalar.
-/

namespace Attestation

/-! ### Entries -/

namespace Operand

/-- What has no text of its own. -/
def Textless (v : Json) : Prop := v = .null ∨ (∃ vs, v = .array vs) ∨ ∃ ms, v = .object ms

lemma scalar?_eq_none_iff {v : Json} : scalar? v = none ↔ Textless v := by
  cases v <;> simp [scalar?, Textless]

/-- The list that an operand is: the items of an array, the pieces of a text between commas, or the
operand by itself. -/
def items : Json → List Json
  | .array vs => vs
  | .string s => (Text.split (· == ',') s).map .string
  | v => [v]

/-- The item is a scalar with this text, once it is trimmed, and the text is not empty. -/
def Says (v : Json) (entry : String) : Prop :=
  ∃ s, scalar? v = some s ∧ Text.trim s = entry ∧ entry ≠ ""

/-- An item of the list says this. -/
def Names (vs : List Json) (entry : String) : Prop := ∃ v ∈ vs, Says v entry

lemma names_cons {v : Json} {vs : List Json} {entry : String} :
    Names (v :: vs) entry ↔ Says v entry ∨ Names vs entry := by
  simp only [Names, List.mem_cons, exists_eq_or_imp]

lemma exists_textless_cons {v : Json} {vs : List Json} :
    (∃ w ∈ v :: vs, Textless w) ↔ Textless v ∨ ∃ w ∈ vs, Textless w := by
  simp only [List.mem_cons, exists_eq_or_imp]

lemma scalar_or_textless (vs : List Json) : (∀ v ∈ vs, ¬ Textless v) ∨ ∃ v ∈ vs, Textless v := by
  by_cases h : ∃ v ∈ vs, Textless v
  · exact .inr h
  · exact .inl fun v hv hnone => h ⟨v, hv, hnone⟩

lemma not_textless_of_scalar? {v : Json} {s : String} (h : scalar? v = some s) : ¬ Textless v := by
  rw [← scalar?_eq_none_iff, h]
  exact Option.some_ne_none s

lemma scalars_of_scalar (rule : String) {vs : List Json} (h : ∀ v ∈ vs, ¬ Textless v) :
    scalars rule vs = .ok (vs.filterMap scalar?) := by
  induction vs with
  | nil => rfl
  | cons v vs ih =>
    obtain ⟨hv, hvs⟩ := List.forall_mem_cons.1 h
    obtain ⟨t, ht⟩ := Option.ne_none_iff_exists'.1 fun hnone => hv (scalar?_eq_none_iff.1 hnone)
    rw [scalars, ht, ih hvs, List.filterMap_cons, ht]
    rfl

lemma scalars_of_textless (rule : String) {vs : List Json} (h : ∃ v ∈ vs, Textless v) :
    ∃ fault, scalars rule vs = .error (.invalidRightOperand rule fault) := by
  induction vs with
  | nil => simp at h
  | cons v vs ih =>
    unfold scalars
    cases hv : scalar? v with
    | none => exact ⟨_, rfl⟩
    | some s =>
      have hrest := (exists_textless_cons.1 h).resolve_left (not_textless_of_scalar? hv)
      obtain ⟨fault, hfault⟩ := ih hrest
      exact ⟨fault, by rw [hfault]; rfl⟩

/-- The entries as written are the texts of the items. -/
lemma rawEntries_of_scalar (rule : String) {right : Json} (h : ∀ v ∈ items right, ¬ Textless v) :
    rawEntries rule right = .ok ((items right).filterMap scalar?) := by
  cases right with
  | array vs => exact scalars_of_scalar rule h
  | string s =>
    have hpieces : scalar? ∘ Json.string = some := rfl
    rw [items, List.filterMap_map, hpieces, List.filterMap_some]
    rfl
  | number n => rfl
  | bool b => rfl
  | null => exact absurd (.inl rfl) (h _ (List.mem_singleton.2 rfl))
  | object ms => exact absurd (.inr (.inr ⟨ms, rfl⟩)) (h _ (List.mem_singleton.2 rfl))

lemma rawEntries_of_textless (rule : String) {right : Json} (h : ∃ v ∈ items right, Textless v) :
    ∃ fault, rawEntries rule right = .error (.invalidRightOperand rule fault) := by
  cases right with
  | array vs => exact scalars_of_textless rule h
  | string s => simp [items, Textless] at h
  | number n => simp [items, Textless] at h
  | bool b => simp [items, Textless] at h
  | null => exact ⟨_, rfl⟩
  | object ms => exact ⟨_, rfl⟩

/-- The entries of a list of scalars are those that it names. -/
lemma entries_of_scalar (rule : String) {right : Json} (h : ∀ v ∈ items right, ¬ Textless v) :
    ∃ es, entries rule right = .ok es ∧ ∀ e, e ∈ es ↔ Names (items right) e := by
  refine ⟨_, by rw [entries, rawEntries_of_scalar rule h]; rfl, fun e => ?_⟩
  rw [List.mem_filter, List.mem_map]
  simp only [List.mem_filterMap]
  constructor
  · rintro ⟨⟨s, ⟨v, hv, hs⟩, rfl⟩, hne⟩
    exact ⟨v, hv, s, hs, rfl, by simpa using hne⟩
  · rintro ⟨v, hv, s, hs, rfl, hne⟩
    exact ⟨⟨s, ⟨v, hv, hs⟩, rfl⟩, by simpa using hne⟩

lemma entries_of_textless (rule : String) {right : Json} (h : ∃ v ∈ items right, Textless v) :
    ∃ fault, entries rule right = .error (.invalidRightOperand rule fault) := by
  obtain ⟨fault, hfault⟩ := rawEntries_of_textless rule h
  exact ⟨fault, by rw [entries, hfault]; rfl⟩

/-! ### Ways to write a list -/

/-- The list is written in another way. -/
inductive Respelled : List Json → List Json → Prop
  | permuted {vs ws : List Json} (h : vs.Perm ws) : Respelled vs ws
  | repeated {vs : List Json} {v : Json} (h : v ∈ vs) : Respelled vs (v :: vs)
  | padded {vs : List Json} {v : Json} {s : String} {before after : List Char}
    (hv : scalar? v = some s) (hbefore : ∀ c ∈ before, Text.isSpace c = true)
    (hafter : ∀ c ∈ after, Text.isSpace c = true) :
    Respelled (v :: vs) (.string (String.ofList (before ++ s.toList ++ after)) :: vs)
  | blank {vs : List Json} {s : String} (h : Text.isBlank s = true) :
    Respelled vs (.string s :: vs)

/-- The lists name the same entries, and hold something without a text both or neither. -/
structure SameEntries (vs ws : List Json) : Prop where
  names : ∀ e, Names vs e ↔ Names ws e
  textless : (∃ v ∈ vs, Textless v) ↔ ∃ w ∈ ws, Textless w

lemma sameEntries_cons {v w : Json} {vs : List Json} (hentry : ∀ e, Says v e ↔ Says w e)
    (htextless : Textless v ↔ Textless w) : SameEntries (v :: vs) (w :: vs) := by
  refine ⟨fun e => ?_, ?_⟩
  · rw [names_cons, names_cons, hentry]
  · rw [exists_textless_cons, exists_textless_cons, htextless]

/-- An item that adds no entry may be left out. -/
lemma sameEntries_self_cons {v : Json} {vs : List Json} (hentry : ∀ e, Says v e → Names vs e)
    (htextless : Textless v → ∃ w ∈ vs, Textless w) : SameEntries vs (v :: vs) := by
  refine ⟨fun e => ?_, ?_⟩
  · rw [names_cons]
    exact (or_iff_right_of_imp (hentry e)).symm
  · rw [exists_textless_cons]
    exact (or_iff_right_of_imp htextless).symm

/-- One way to write a list anew keeps its entries. -/
lemma Respelled.sameEntries {vs ws : List Json} (h : Respelled vs ws) : SameEntries vs ws := by
  cases h with
  | permuted h => exact ⟨fun e => by simp only [Names, h.mem_iff], by simp only [h.mem_iff]⟩
  | @repeated _ v h => exact sameEntries_self_cons (fun e hv => ⟨v, h, hv⟩) fun hv => ⟨v, h, hv⟩
  | @padded _ v s before after hv hbefore hafter =>
    have hpadded : scalar? (.string (String.ofList (before ++ s.toList ++ after))) =
        some (String.ofList (before ++ s.toList ++ after)) := rfl
    refine sameEntries_cons (fun e => ?_) ?_
    · unfold Says
      rw [hv, hpadded]
      simp only [Option.some.injEq, exists_eq_left', Text.trim_append s hbefore hafter]
    · exact iff_of_false (not_textless_of_scalar? hv) (not_textless_of_scalar? hpadded)
  | @blank _ s h =>
    have hs : scalar? (.string s) = some s := rfl
    refine sameEntries_self_cons ?_ fun hnone => absurd hnone (not_textless_of_scalar? hs)
    rintro e ⟨t, ht, htrim, hne⟩
    cases ht
    exact absurd (htrim.symm.trans (Text.trim_eq_empty_of_isBlank h)) hne

/-- And so do any number of them, there and back. -/
lemma sameEntries_of_respelled {vs ws : List Json} (h : Relation.EqvGen Respelled vs ws) :
    SameEntries vs ws := by
  induction h with
  | rel vs ws h => exact h.sameEntries
  | refl vs => exact ⟨fun _ => Iff.rfl, Iff.rfl⟩
  | symm vs ws _ ih => exact ⟨fun e => (ih.names e).symm, ih.textless.symm⟩
  | trans us vs ws _ _ ih ih' =>
    exact ⟨fun e => (ih.names e).trans (ih'.names e), ih.textless.trans ih'.textless⟩

end Operand

/-! ### Verdicts -/

open Operand

/-- What decides whether a value is in a list: a rule that allows the operator, or the comparison
for claims without a rule. -/
inductive Membership where
  | rule (r : Rule) (allowed : r.allows .isIn = true)
  | dynamic (key : String)

namespace Membership

variable {m : Membership} {value : String} {right : Json}

/-- The key under which a list is refused. -/
def key : Membership → String
  | rule r _ => r.claimKey
  | dynamic key => key

def compare (m : Membership) (value : String) (right : Json) : Except Error Bool :=
  match m with
  | rule r _ => r.compare .isIn value right
  | dynamic key => compareDynamic key .isIn value right

/-- Values are compared with entries as they are. -/
def IsExact : Membership → Prop
  | rule r _ => r.comparison = .exact
  | dynamic _ => True

/-- The value is taken for the entry. -/
def accepts : Membership → String → String → Bool
  | rule r _ => r.entryMatches
  | dynamic _ => fun value entry => value == entry

/-- The two callers share what a list is. -/
lemma compare_eq (m : Membership) (value : String) (right : Json) :
    m.compare value right = (entries m.key right).map fun es => es.any (m.accepts value) := by
  cases m with
  | rule r allowed =>
    rw [compare, Rule.compare, allowed]
    rfl
  | dynamic key =>
    have hcontains (es : List String) : es.contains value = es.any (value == ·) :=
      List.contains_eq_any_beq
    rw [compare, compareDynamic, if_neg (by decide)]
    simp only [hcontains]
    rfl

lemma accepts_iff (h : m.IsExact) {entry : String} : m.accepts value entry = true ↔ value = entry := by
  cases m with
  | rule r allowed =>
    have hr : r.comparison = .exact := h
    simp [accepts, Rule.entryMatches, Rule.equals, hr]
  | dynamic key => exact beq_iff_eq

/-- A list is searched if all its items are scalars. -/
lemma compare_of_scalar (m : Membership) (value : String)
    (h : ∀ v ∈ items right, ¬ Textless v) :
    ∃ b, m.compare value right = .ok b ∧
      (b = true ↔ ∃ e, Names (items right) e ∧ m.accepts value e = true) := by
  obtain ⟨es, hes, hmem⟩ := entries_of_scalar m.key h
  refine ⟨_, by rw [compare_eq, hes]; rfl, ?_⟩
  rw [List.any_eq_true]
  simp only [hmem]

lemma compare_of_textless (m : Membership) (value : String) (h : ∃ v ∈ items right, Textless v) :
    ∃ fault, m.compare value right = .error (.invalidRightOperand m.key fault) := by
  obtain ⟨fault, hfault⟩ := entries_of_textless m.key h
  exact ⟨fault, by rw [compare_eq, hfault]; rfl⟩

lemma compare_eq_true_iff : m.compare value right = .ok true ↔
    (∀ v ∈ items right, ¬ Textless v) ∧
      ∃ e, Names (items right) e ∧ m.accepts value e = true := by
  rcases scalar_or_textless (items right) with h | ⟨v, hv, hnone⟩
  · obtain ⟨b, hb, hiff⟩ := compare_of_scalar m value h
    rw [hb, Except.ok.injEq, hiff]
    exact (and_iff_right h).symm
  · obtain ⟨fault, hfault⟩ := compare_of_textless m value ⟨v, hv, hnone⟩
    rw [hfault]
    exact iff_of_false (by simp) fun hall => hall.1 v hv hnone

lemma compare_eq_error_iff :
    (∃ fault, m.compare value right = .error (.invalidRightOperand m.key fault)) ↔
      ∃ v ∈ items right, Textless v := by
  refine ⟨fun ⟨fault, hfault⟩ => ?_, compare_of_textless m value⟩
  refine (scalar_or_textless (items right)).resolve_left fun h => ?_
  obtain ⟨b, hb, -⟩ := compare_of_scalar m value h
  rw [hb] at hfault
  cases hfault

/-- Two comparisons come to the same: true, false, or a refusal of the list. -/
inductive Agree (key : String) : Except Error Bool → Except Error Bool → Prop
  | decided (b : Bool) : Agree key (.ok b) (.ok b)
  | refused (fault other : OperandFault) :
    Agree key (.error (.invalidRightOperand key fault)) (.error (.invalidRightOperand key other))

/-- A comparison depends on the entries alone. -/
lemma agree_of_sameEntries {left right : Json} (h : SameEntries (items left) (items right)) :
    Agree m.key (m.compare value left) (m.compare value right) := by
  rcases scalar_or_textless (items left) with hleft | hnone
  · have hright : ∀ v ∈ items right, ¬ Textless v := by
      intro v hv hnone
      obtain ⟨w, hw, hnone⟩ := h.textless.2 ⟨v, hv, hnone⟩
      exact hleft w hw hnone
    obtain ⟨b, hb, hiff⟩ := compare_of_scalar m value hleft
    obtain ⟨b', hb', hiff'⟩ := compare_of_scalar m value hright
    have hbb : b = b' := by
      rw [Bool.eq_iff_iff, hiff, hiff']
      simp only [h.names]
    rw [hb, hb', hbb]
    exact .decided b'
  · obtain ⟨fault, hfault⟩ := compare_of_textless m value hnone
    obtain ⟨other, hother⟩ := compare_of_textless m value (h.textless.1 hnone)
    rw [hfault, hother]
    exact .refused fault other

lemma compare_eq_true_iff_of_isExact (h : m.IsExact) : m.compare value right = .ok true ↔
    (∀ v ∈ items right, ¬ Textless v) ∧ Names (items right) value := by
  rw [compare_eq_true_iff]
  simp only [accepts_iff h, exists_eq_right']

/-! ### What a list means -/

/-- What it means to be in a list. -/
structure ReadsLists (m : Membership) (value : String) : Prop where
  /-- A text is the array of its pieces between commas. -/
  text : ∀ s, ∃ pieces : List String, String.intercalate "," pieces = s ∧ pieces ≠ [] ∧
    (∀ piece ∈ pieces, ',' ∉ piece.toList) ∧
      m.compare value (.string s) = m.compare value (.array (pieces.map .string))
  /-- It makes no difference how the entries are written down. -/
  respelled : ∀ left right, Relation.EqvGen Respelled (items left) (items right) →
    Agree m.key (m.compare value left) (m.compare value right)
  /-- A value is in a list if it is one of the entries. -/
  member : m.IsExact → ∀ right, m.compare value right = .ok true ↔
    (∀ v ∈ items right, ¬ Textless v) ∧ Names (items right) value
  /-- A part of an entry is not in the list. -/
  part : m.IsExact → ∀ right,
    (∀ e, Names (items right) e → value.toList <:+: e.toList ∧ value ≠ e) →
      m.compare value right ≠ .ok true
  /-- A stretch of text over a comma is not in the list. -/
  stretch : m.IsExact → ',' ∈ value.toList → ∀ s, m.compare value (.string s) = .ok false
  /-- There are three verdicts. -/
  verdict : ∀ right, m.compare value right = .ok true ∨ m.compare value right = .ok false ∨
    ∃ fault, m.compare value right = .error (.invalidRightOperand m.key fault)
  /-- One item without a text spoils the list, whatever else is in it. -/
  refused : ∀ right, (∃ fault, m.compare value right = .error (.invalidRightOperand m.key fault)) ↔
    ∃ v ∈ items right, Textless v

lemma mem_pieces {s piece : String} (h : piece ∈ Text.split (· == ',') s) :
    ',' ∉ piece.toList := by
  obtain ⟨chars, hchars, rfl⟩ := List.mem_map.1 h
  rw [String.toList_ofList]
  exact fun hmem => absurd (Text.not_sep_of_mem_splitChars chars hchars ',' hmem) (by decide)

lemma scalar_pieces (s : String) : ∀ v ∈ items (.string s), ¬ Textless v := by
  intro v hv
  obtain ⟨piece, -, rfl⟩ := List.mem_map.1 hv
  exact not_textless_of_scalar? (s := piece) rfl

lemma compare_text (m : Membership) (value s : String) : m.compare value (.string s) =
    m.compare value (.array ((Text.split (· == ',') s).map .string)) := by
  have harray : ∀ v ∈ items (.array ((Text.split (· == ',') s).map .string)), ¬ Textless v :=
    scalar_pieces s
  rw [compare_eq, compare_eq, entries, entries, rawEntries_of_scalar _ (scalar_pieces s),
    rawEntries_of_scalar _ harray]
  rfl

/-- A piece of a text with commas has none in it. -/
lemma compare_stretch (h : m.IsExact) (hcomma : ',' ∈ value.toList) (s : String) :
    m.compare value (.string s) = .ok false := by
  obtain ⟨b, hb, -⟩ := compare_of_scalar m value (scalar_pieces s)
  cases b with
  | false => exact hb
  | true =>
    obtain ⟨-, v, hv, t, ht, htrim, -⟩ := (compare_eq_true_iff_of_isExact h).1 hb
    obtain ⟨piece, hpiece, rfl⟩ := List.mem_map.1 hv
    cases ht
    rw [← htrim] at hcomma
    exact absurd (Text.mem_of_mem_trim hcomma) (mem_pieces hpiece)

/-- **Membership in a list is exact, however the list is written.** -/
theorem reads_lists (m : Membership) (value : String) : m.ReadsLists value where
  text s := by
    refine ⟨Text.split (· == ',') s, Text.intercalate_split s, ?_, fun _ => mem_pieces,
      m.compare_text value s⟩
    simp [Text.split, Text.splitChars_ne_nil]
  respelled _ _ h := agree_of_sameEntries (sameEntries_of_respelled h)
  member h _ := compare_eq_true_iff_of_isExact h
  part h right hpart htrue := by
    obtain ⟨-, hnames⟩ := (compare_eq_true_iff_of_isExact h).1 htrue
    exact (hpart value hnames).2 rfl
  stretch h hcomma s := compare_stretch h hcomma s
  verdict right := by
    rcases scalar_or_textless (items right) with h | h
    · obtain ⟨b, hb, -⟩ := compare_of_scalar m value h
      cases b
      · exact .inr (.inl hb)
      · exact .inl hb
    · exact .inr (.inr (compare_of_textless m value h))
  refused _ := compare_eq_error_iff

/-- Two names between commas, and the same two the other way round in an array. -/
theorem reads_lists_names :
    Relation.EqvGen Respelled (items (.array [.string "Globex", .string "ACME"]))
        (items (.string " ACME,Globex")) ∧
      (rule Rule.legalName (by decide)).compare "ACME" (.string " ACME,Globex") = .ok true ∧
      Agree "legal_name"
        (Rule.legalName.compare .isIn "ACME" (.array [.string "Globex", .string "ACME"]))
        (Rule.legalName.compare .isIn "ACME" (.string " ACME,Globex")) := by
  have hlists : Relation.EqvGen Respelled (items (.array [.string "Globex", .string "ACME"]))
      (items (.string " ACME,Globex")) := by
    have hsplit : Text.split (· == ',') " ACME,Globex" = [" ACME", "Globex"] := by decide
    have hspace : String.ofList ([' '] ++ "ACME".toList ++ []) = " ACME" := by decide
    have hpadded : Respelled [.string "ACME", .string "Globex"]
        [.string (String.ofList ([' '] ++ "ACME".toList ++ [])), .string "Globex"] :=
      .padded rfl (List.forall_mem_singleton.2 rfl) (List.forall_mem_nil _)
    rw [hspace] at hpadded
    rw [items, items, hsplit]
    exact .trans _ _ _ (.rel _ _ (.permuted (.swap _ _ _))) (.rel _ _ hpadded)
  have hreads := reads_lists (rule Rule.legalName (by decide)) "ACME"
  exact ⟨hlists, rfl, hreads.respelled _ _ hlists⟩

end Membership

end Attestation
