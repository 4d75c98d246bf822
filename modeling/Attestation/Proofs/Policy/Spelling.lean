import Attestation.Policy.Constraint
import Attestation.Proofs.Computation
import Attestation.Proofs.Json.Record
import Attestation.Proofs.Json.Value
import Attestation.Proofs.Text.Case
import Attestation.Proofs.Text.Runs
import Mathlib.Data.List.DropRight
import Mathlib.Logic.Relation

/-!
How operators are spelled and constraints are written.

An operator is read by the letters of the last piece of its spelling: what stands before a
separator, the case of the letters and underscores make no difference. A constraint is read back
from its JSON value, whichever value it was read from before.
-/

namespace Attestation

open Text (isSpace switchCase)

namespace Operator

/-! ### Spellings -/

/-- One spelling becomes another when a letter of ASCII switches case or an underscore comes in. -/
inductive Respells : List Char → List Char → Prop where
  | switch (before : List Char) (c : Char) (after : List Char) :
    Respells (before ++ c :: after) (before ++ switchCase c :: after)
  | underscore (before after : List Char) : Respells (before ++ after) (before ++ '_' :: after)

/-- Any number of such steps, taken either way. -/
def Respelled (s t : String) : Prop := Relation.EqvGen Respells s.toList t.toList

/-- Neither separators nor white space. -/
def Plain (s : List Char) : Prop := ∀ c ∈ s, isSeparator c = false ∧ isSpace c = false

/-- Both texts are read as the same operator, or both are refused as unknown operators, each by its
own name. -/
def ReadAlike (s t : String) : Prop :=
  (∃ op, parse s = .ok op ∧ parse t = .ok op) ∨
    (parse s = .error (.unknownOperator s) ∧ parse t = .error (.unknownOperator t))

/-- What is left of a piece to be told apart by. -/
def letters (s : List Char) : List Char := (s.filter (· != '_')).map Char.toUpper

lemma readAlike_of_normalize {s t : String} (h : normalize s.toList = normalize t.toList) :
    ReadAlike s t := by
  unfold ReadAlike parse
  rw [h]
  cases ofNormal? (String.ofList (normalize t.toList)) with
  | none => exact .inr ⟨rfl, rfl⟩
  | some op => exact .inl ⟨op, rfl, rfl⟩

/-- Every operator is read from its own name. -/
lemma parse_name (op : Operator) : parse op.name = .ok op := by
  cases op <;> rfl

/-! ### Letters -/

lemma letters_append (s t : List Char) : letters (s ++ t) = letters s ++ letters t := by
  simp [letters]

lemma letters_switchCase (c : Char) : letters [switchCase c] = letters [c] := by
  by_cases hc : c.isAlpha = true
  · have hne : c ≠ '_' := by
      rintro rfl
      exact absurd hc (by decide)
    have hne' : switchCase c ≠ '_' := by
      intro h
      rw [← Text.isAlpha_switchCase, h] at hc
      exact absurd hc (by decide)
    simp [letters, hne, hne', Text.toUpper_switchCase]
  · rw [Text.switchCase_of_not_isAlpha (by simpa using hc)]

lemma Respells.letters_eq {s t : List Char} (h : Respells s t) : letters s = letters t := by
  cases h with
  | switch before c after =>
    rw [letters_append, letters_append, ← List.singleton_append, letters_append,
      ← letters_switchCase, ← letters_append, List.singleton_append]
  | underscore before after =>
    rw [letters_append, letters_append]
    rfl

lemma isPlain_of_isAlpha {c : Char} (h : c.isAlpha = true) :
    isSeparator c = false ∧ isSpace c = false := by
  have hbounds := Text.isAlpha_bounds h
  refine ⟨?_, ?_⟩
  · by_contra hc
    simp only [isSeparator, Bool.or_eq_false_iff, beq_eq_false_iff_ne, not_and_or, not_not] at hc
    rcases hc with (rfl | rfl) | rfl <;> exact absurd hbounds (by decide)
  · simp [isSpace]
    omega

lemma Respells.plain_iff {s t : List Char} (h : Respells s t) : Plain s ↔ Plain t := by
  unfold Plain
  cases h with
  | switch before c after =>
    have hc : isSeparator c = false ∧ isSpace c = false ↔
        isSeparator (switchCase c) = false ∧ isSpace (switchCase c) = false := by
      by_cases halpha : c.isAlpha = true
      · exact iff_of_true (isPlain_of_isAlpha halpha)
          (isPlain_of_isAlpha ((Text.isAlpha_switchCase c).trans halpha))
      · rw [Text.switchCase_of_not_isAlpha (by simpa using halpha)]
    simp only [List.forall_mem_append, List.forall_mem_cons, hc]
  | underscore before after =>
    have hunderscore : isSeparator '_' = false ∧ isSpace '_' = false := by decide
    simp only [List.forall_mem_append, List.forall_mem_cons, hunderscore, and_self, true_and]

/-- Whatever is done to the spelling of a plain text, it stays plain and keeps its letters. -/
lemma letters_eq_of_eqvGen {s t : List Char} (h : Relation.EqvGen Respells s t) :
    letters s = letters t ∧ (Plain s ↔ Plain t) := by
  induction h with
  | rel s t h => exact ⟨h.letters_eq, h.plain_iff⟩
  | refl s => exact ⟨rfl, Iff.rfl⟩
  | symm s t _ ih => exact ⟨ih.1.symm, ih.2.symm⟩
  | trans s t u _ _ ih ih' => exact ⟨ih.1.trans ih'.1, ih.2.trans ih'.2⟩

/-! ### The last piece -/

lemma isSpace_of_isSeparator {c : Char} (h : isSeparator c = true) : isSpace c = false := by
  simp only [isSeparator, Bool.or_eq_true, beq_iff_eq] at h
  rcases h with (rfl | rfl) | rfl <;> decide

lemma lastPiece_eq (s : List Char) : lastPiece s = s.rtakeWhile (!isSeparator ·) := rfl

lemma normalize_of_plain {s : List Char} (h : Plain s) : normalize s = letters s := by
  have htrim : Text.trimChars s = s := Text.stripWhile_of_forall_not fun c hc => (h c hc).2
  have hlast : lastPiece s = s :=
    (lastPiece_eq s).trans (List.rtakeWhile_eq_self_iff.2 fun c hc => by simp [(h c hc).1])
  rw [normalize, htrim, hlast, letters]

/-- Only the piece behind the last separator is read. -/
lemma normalize_append {c : Char} {s : List Char} (hc : isSeparator c = true) (h : Plain s)
    (before : List Char) : normalize (before ++ c :: s) = letters s := by
  have htrim : Text.trimChars (before ++ c :: s) = before.dropWhile isSpace ++ c :: s :=
    Text.stripWhile_append_stop before (List.cons_ne_nil c s)
      (List.forall_mem_cons.2 ⟨isSpace_of_isSeparator hc, fun d hd => (h d hd).2⟩)
  have hlast : lastPiece (before.dropWhile isSpace ++ c :: s) = s :=
    Text.rtakeWhile_append (fun d hd => by simp [(h d hd).1]) (by simp [hc]) _
  rw [normalize, htrim, hlast, letters]

/-- A plain text is read as any other spelling of it is, alone or behind a separator. -/
lemma Respelled.readAlike {s t : String} (h : Respelled s t) (hs : Plain s.toList) {c : Char}
    (hc : isSeparator c = true) (before : String) :
    ReadAlike (before ++ String.singleton c ++ t) s ∧ ReadAlike t s := by
  obtain ⟨hletters, hplain⟩ := letters_eq_of_eqvGen h
  have hchars : (before ++ String.singleton c ++ t).toList = before.toList ++ c :: t.toList := by
    simp
  have ht := hplain.1 hs
  refine ⟨readAlike_of_normalize ?_, readAlike_of_normalize ?_⟩
  · rw [hchars, normalize_append hc ht, normalize_of_plain hs, hletters]
  · rw [normalize_of_plain ht, normalize_of_plain hs, hletters]

end Operator

/-! ### Constraints in JSON -/

namespace Constraint

open Json (Draft)

lemma operatorOfDraft_eq_ok_iff {d : Draft} {op : Operator} :
    operatorOfDraft d = .ok op ↔ ∃ s, d.string? = some s ∧ Operator.parse s = .ok op := by
  unfold operatorOfDraft
  cases d.string? with
  | none => simp
  | some s => cases hs : Operator.parse s <;> simp [Except.mapError, hs]

lemma given_eq_ok_iff {α : Type} {read : Draft → Except Refusal α} {f : Option Draft} {a : α} :
    given read f = .ok (some a) ↔ ∃ d, f = some d ∧ read d = .ok a := by
  cases f with
  | none => simp [given]
  | some d => simp [given, Except.map_eq_ok_iff]

lemma orMalformed_eq_ok_iff {α : Type} {x : Option α} {a : α} :
    orMalformed x = .ok a ↔ x = some a := by
  cases x <;> simp [orMalformed]

/-- A constraint is made of a text, the spelling of an operator and a value, all of them given. -/
lemma ofFields_eq_ok_iff {left operator right : Option Draft} {c : Constraint} :
    ofFields left operator right = .ok c ↔
      (∃ d, left = some d ∧ d.string? = some c.left) ∧
        (∃ d, operator = some d ∧ operatorOfDraft d = .ok c.operator) ∧
        ∃ d, right = some d ∧ d.value? = some c.right := by
  unfold ofFields
  simp only [Except.bind_eq_ok_iff, orMalformed_eq_ok_iff]
  constructor
  · rintro ⟨l, hl, o, ho, r, hr, a, rfl, b, rfl, v, rfl, h⟩
    cases h
    simp only [given_eq_ok_iff, orMalformed_eq_ok_iff] at hl ho hr
    exact ⟨hl, ho, hr⟩
  · rintro ⟨hl, ho, hr⟩
    refine ⟨some c.left, ?_, some c.operator, given_eq_ok_iff.2 ho, some c.right, ?_,
      c.left, rfl, c.operator, rfl, c.right, rfl, rfl⟩
    · simpa only [given_eq_ok_iff, orMalformed_eq_ok_iff] using hl
    · simpa only [given_eq_ok_iff, orMalformed_eq_ok_iff] using hr

/-- Named or in order, the fields are what a constraint is read from. -/
lemma exists_ofFields {d : Draft} {c : Constraint} (h : ofDraft d = .ok c) :
    ∃ left operator right, ofFields left operator right = .ok c := by
  cases d with
  | object members =>
    simp only [ofDraft, Except.bind_eq_ok_iff] at h
    obtain ⟨left, -, operator, -, right, -, h⟩ := h
    exact ⟨left, operator, right, h⟩
  | array items =>
    simp only [ofDraft, Except.bind_eq_ok_iff] at h
    obtain ⟨c', hc, h⟩ := h
    split at h
    · cases h
      exact ⟨_, _, _, hc⟩
    · cases h
  | _ => cases h

/-- The right operand of a constraint that is read has increasing keys. -/
lemma ordered_right {v : Json} {c : Constraint} (h : ofJson v = .ok c) : c.right.Ordered := by
  obtain ⟨left, operator, right, hfields⟩ := exists_ofFields h
  obtain ⟨-, -, d, -, hd⟩ := ofFields_eq_ok_iff.1 hfields
  exact Json.ordered_of_value? d hd

/-- **A constraint is read back from its JSON value.** -/
theorem ofJson_json {c : Constraint} (h : c.right.Ordered) : ofJson c.json = .ok c := by
  have hfields : ofFields (some (.string (some c.left))) (some (.string (some c.operator.name)))
      (some c.right.draft) = .ok c := ofFields_eq_ok_iff.2
    ⟨⟨_, rfl, rfl⟩, ⟨_, rfl, operatorOfDraft_eq_ok_iff.2 ⟨_, rfl, c.operator.parse_name⟩⟩,
      ⟨_, rfl, Json.value?_draft h⟩⟩
  rw [← hfields]
  simp [ofJson, ofDraft, json, Json.draft, Json.draftMembers, Draft.membersAt, bind, Except.bind]

end Constraint

/-- **Operators and constraints are read alike however they are spelled.** A plain text and any
other spelling of it, alone or behind a separator, are read as one operator or refused alike; each
operator is read from its name; and a constraint is read back from its JSON value, also if it was
read from another one. -/
theorem spellings_read_alike :
    (∀ (before : String) (c : Char) (s t : String), Operator.isSeparator c = true →
      Operator.Plain s.toList → Operator.Respelled s t →
        Operator.ReadAlike (before ++ String.singleton c ++ t) s ∧ Operator.ReadAlike t s) ∧
    (∀ op : Operator, Operator.parse op.name = .ok op) ∧
    (∀ c : Constraint, c.right.Ordered → Constraint.ofJson c.json = .ok c) ∧
    ∀ v c, Constraint.ofJson v = .ok c → Constraint.ofJson c.json = .ok c :=
  ⟨fun before _ _ _ hc hs h => h.readAlike hs hc before, Operator.parse_name,
    fun _ h => Constraint.ofJson_json h,
    fun _ _ h => Constraint.ofJson_json (Constraint.ordered_right h)⟩

/-- A constraint with an object of two members on the right. -/
def Constraint.sample : Constraint :=
  ⟨"https://w3id.org/edc/v0.0.1/ns/tags", .hasPart,
    .object [("all", .array [.null, .string "eu"]), ("any", .bool false)]⟩

/-- A full name with a capital and an underscore, and a constraint whose fields are listed. -/
theorem spellings_read_alike_sample :
    Operator.isSeparator '/' = true ∧ Operator.Plain "gteq".toList ∧
      Operator.Respelled "gteq" "G_teq" ∧ Operator.parse "gteq" = .ok .geq ∧
      Operator.ReadAlike ("http://www.w3.org/ns/odrl/2" ++ String.singleton '/' ++ "G_teq") "gteq" ∧
      Constraint.sample.right.Ordered ∧
      Constraint.ofJson Constraint.sample.json = .ok Constraint.sample ∧
      Constraint.ofJson (.array [.string "tier", .string "odrl:LT_EQ", .null]) =
        .ok ⟨"tier", .leq, .null⟩ ∧
      Constraint.ofJson (Constraint.json ⟨"tier", .leq, .null⟩) = .ok ⟨"tier", .leq, .null⟩ := by
  have hplain : Operator.Plain "gteq".toList := by
    simp [Operator.Plain, Operator.isSeparator, Text.isSpace]
  have hrespelled : Operator.Respelled "gteq" "G_teq" :=
    .trans _ _ _ (.rel _ _ (.switch [] 'g' ['t', 'e', 'q']))
      (.rel _ _ (.underscore ['G'] ['t', 'e', 'q']))
  have hkeys : ∀ k ∈ ["any"], "all" < k := by decide
  have hordered : Constraint.sample.right.Ordered :=
    ⟨hkeys, ⟨trivial, trivial, trivial⟩, fun _ h => absurd h List.not_mem_nil, trivial, trivial⟩
  have hlisted : Constraint.ofJson (.array [.string "tier", .string "odrl:LT_EQ", .null]) =
      .ok ⟨"tier", .leq, .null⟩ := rfl
  obtain ⟨hspelled, -, hwritten, hread⟩ := spellings_read_alike
  exact ⟨rfl, hplain, hrespelled, rfl,
    (hspelled "http://www.w3.org/ns/odrl/2" '/' "gteq" "G_teq" rfl hplain hrespelled).1, hordered,
    hwritten _ hordered, hlisted, hread _ _ hlisted⟩

end Attestation
