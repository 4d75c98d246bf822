import Attestation.Policy.Rule
import Attestation.Proofs.Computation
import Attestation.Proofs.Json.Printer
import Attestation.Proofs.Policy.Ordering

/-!
The comparisons of a claim that has no rule.

Sizes are compared as numbers and equality is the equality of texts, but the two never disagree. The
four comparisons of sizes fail together, with one error, or look at the same two numbers; then
they are those of one order, unless a number is NaN and none of them holds. Texts that are equal
spell one number, so what is equal is neither greater nor less. Every number of JSON has a text
that is read as a number.
-/

namespace Attestation

open Numeral (Double)

/-! ### Two numbers -/

namespace Numeral.Double

variable {x y : Double}

lemma rank_eq_none_iff : x.rank = none ↔ x.isNaN = true := by
  unfold rank
  split <;> simp_all

lemma exists_rank (h : x.isNaN = false) : ∃ r, x.rank = some r :=
  Option.ne_none_iff_exists'.1 fun hnone => by simp [rank_eq_none_iff, h] at hnone

/-- Two numbers that are not NaN are in order. -/
lemma exists_compare (hx : x.isNaN = false) (hy : y.isNaN = false) : ∃ o, x.compare y = some o := by
  obtain ⟨a, ha⟩ := exists_rank hx
  obtain ⟨b, hb⟩ := exists_rank hy
  exact ⟨Ord.compare a b, by rw [compare, ha, hb]; rfl⟩

lemma compare_of_isNaN (h : x.isNaN = true ∨ y.isNaN = true) : x.compare y = none := by
  rw [← rank_eq_none_iff, ← rank_eq_none_iff] at h
  rcases h with h | h
  · rw [compare, h]
    rfl
  · rw [compare, h]
    cases x.rank <;> rfl

lemma compare_self (h : x.isNaN = false) : x.compare x = some .eq := by
  obtain ⟨a, ha⟩ := exists_rank h
  rw [compare, ha]
  exact congrArg some (compare_eq_iff_eq.2 rfl)

lemma compare_swap (x y : Double) : y.compare x = (x.compare y).map Ordering.swap := by
  unfold compare
  cases x.rank with
  | none => cases y.rank <;> rfl
  | some a =>
    cases y.rank with
    | none => rfl
    | some b => exact congrArg some (Int.compare_swap a b).symm

end Numeral.Double

lemma compareNumbers_of_compare {x y : Double} {o : Ordering} (h : x.compare y = some o)
    (op : Operator) : compareNumbers op x y = op.passes o := by
  rw [compareNumbers, h]
  rfl

lemma compareNumbers_of_isNaN {x y : Double} (h : x.isNaN = true ∨ y.isNaN = true)
    (op : Operator) : compareNumbers op x y = false := by
  rw [compareNumbers, Double.compare_of_isNaN h]
  rfl

lemma compareNumbers_gt (x y : Double) : compareNumbers .gt y x = compareNumbers .lt x y := by
  rw [compareNumbers, compareNumbers, Double.compare_swap x y]
  cases x.compare y with
  | none => rfl
  | some o => exact Operator.passes_gt_swap o

/-! ### Reading the two sides -/

namespace Operand

lemma number_eq_ok_iff {s : String} {x : Double} :
    number s = .ok x ↔ Numeral.readDouble (Text.trimChars s.toList) = some x := by
  unfold number
  cases Numeral.readDouble (Text.trimChars s.toList) <;> simp

lemma needScalar_eq_ok_iff {rule : String} {right : Json} {s : String} :
    needScalar rule right = .ok s ↔ scalar? right = some s := by
  unfold needScalar
  cases scalar? right <;> simp

end Operand

open Operand

/-- The two numbers that are compared: the claim is one, and the text of the operand another. -/
def Sides (value : String) (right : Json) (x y : Double) : Prop :=
  number value = .ok x ∧ ∃ s, scalar? right = some s ∧ number s = .ok y

/-- The sides are read before it is asked how to compare them. -/
def sides (key value : String) (right : Json) : Except Error (Double × Double) := do
  let x ← number value
  let y ← number (← needScalar key right)
  return (x, y)

variable {key value : String} {right : Json} {op : Operator} {x y : Double}

lemma sides_eq_ok_iff : sides key value right = .ok (x, y) ↔ Sides value right x y := by
  unfold sides Sides
  simp only [Except.bind_eq_ok_iff, needScalar_eq_ok_iff]
  constructor
  · rintro ⟨x', hx, s, hs, y', hy, h⟩
    cases h
    exact ⟨hx, s, hs, hy⟩
  · rintro ⟨hx, s, hs, hy⟩
    exact ⟨x, hx, s, hs, y, hy, rfl⟩

lemma compareDynamic_of_isNumeric (hop : op.isNumeric = true) : compareDynamic key op value right =
    (sides key value right).map fun p => compareNumbers op p.1 p.2 := by
  unfold compareDynamic sides
  rw [if_pos hop]
  cases number value with
  | error e => rfl
  | ok x =>
    cases needScalar key right with
    | error e => rfl
    | ok s =>
      show (number s).bind _ = ((number s).bind _).map _
      cases number s <;> rfl

lemma compareDynamic_of_sides (hop : op.isNumeric = true) (h : Sides value right x y) :
    compareDynamic key op value right = .ok (compareNumbers op x y) := by
  rw [compareDynamic_of_isNumeric hop, sides_eq_ok_iff.2 h]
  rfl

lemma compareDynamic_eq_ok_iff (hop : op.isNumeric = true) {b : Bool} :
    compareDynamic key op value right = .ok b ↔
      ∃ x y, Sides value right x y ∧ compareNumbers op x y = b := by
  rw [compareDynamic_of_isNumeric hop, Except.map_eq_ok_iff, Prod.exists]
  simp only [sides_eq_ok_iff]

/-- Equality looks at the texts alone. -/
lemma compareDynamic_of_scalar (key value : String) {s : String} (hs : scalar? right = some s) :
    compareDynamic key .eq value right = .ok (value == s) ∧
      compareDynamic key .neq value right = .ok (value != s) := by
  have hscalar : needScalar key right = .ok s := needScalar_eq_ok_iff.2 hs
  rw [compareDynamic, compareDynamic, if_neg (by decide), if_neg (by decide), hscalar]
  exact ⟨rfl, rfl⟩

/-! ### Numbers of JSON -/

lemma isSpace_of_isNumberChar {c : Char} (hc : Numeral.isNumberChar c = true) :
    Text.isSpace c = false := by
  simp only [Numeral.isNumberChar, Bool.or_eq_true, beq_iff_eq] at hc
  rcases hc with (((hdigit | rfl) | rfl) | rfl) | rfl
  · have hbounds : 48 ≤ c.toNat ∧ c.toNat ≤ 57 := by
      simpa [Char.isDigit, UInt32.le_iff_toNat_le] using hdigit
    simp only [Text.isSpace, Bool.or_eq_false_iff, Bool.and_eq_false_iff, beq_eq_false_iff_ne,
      decide_eq_false_iff_not]
    omega
  all_goals decide

lemma exists_readDouble_toDigits (negative : Bool) (n : ℕ) :
    ∃ x, Numeral.readUnsigned negative (Nat.toDigits 10 n) = some x := by
  have hread := Numeral.readUnsigned_whole negative (t := [])
    (Nat.toDigits_ne_nil (b := 10) (n := n)) (Numeral.all_isDigit_toDigits n) (by simp) (e := 0) rfl
    (by omega) (by omega)
  rw [List.append_nil] at hread
  exact ⟨_, hread⟩

/-- The text of a number of JSON is read as a number. -/
lemma exists_number_text (n : Json.Number) : ∃ x, number n.text = .ok x := by
  have htrim : Text.trimChars n.text.toList = n.chars := by
    rw [Json.Number.text, String.toList_ofList]
    exact Text.stripWhile_of_forall_not fun c hc =>
      isSpace_of_isNumberChar (n.isNumberChar_of_mem c hc)
  simp only [number_eq_ok_iff, htrim]
  cases n with
  | natural n =>
    obtain ⟨c, more, hdigits⟩ := List.exists_cons_of_ne_nil
      (Nat.toDigits_ne_nil (b := 10) (n := n.toNat))
    have hc : c.isDigit = true := Numeral.all_isDigit_toDigits n.toNat c (by simp [hdigits])
    have hread := exists_readDouble_toDigits false n.toNat
    rw [hdigits, ← Numeral.readDouble_cons hc] at hread
    rw [Json.Number.chars, hdigits]
    exact hread
  | negSucc n => exact exists_readDouble_toDigits true _
  | real x hx => exact ⟨x, Numeral.readDouble_text hx⟩

/-! ### How the comparisons fit together -/

/-- What the comparisons of a claim promise about each other. -/
structure Coherent (key value : String) : Prop where
  /-- The comparisons of sizes fail alike, or there are two numbers to compare and all succeed. -/
  together : ∀ right,
    (∃ e, ∀ op, op.isNumeric = true → compareDynamic key op value right = .error e) ∨
      ∃ x y, Sides value right x y ∧ ∀ op, op.isNumeric = true →
        ∃ b, compareDynamic key op value right = .ok b
  /-- Without NaN one of less, greater and both weak forms holds, and the weak forms deny the
  strict ones. -/
  ordered : ∀ right x y, Sides value right x y → x.isNaN = false → y.isNaN = false →
    ∃ holds : Operator → Bool,
      (∀ op, op.isNumeric = true → compareDynamic key op value right = .ok (holds op)) ∧
        ExactlyOne (holds .lt = true) (holds .gt = true) (holds .geq = true ∧ holds .leq = true) ∧
          holds .geq = !holds .lt ∧ holds .leq = !holds .gt
  /-- With NaN on a side there is no order. -/
  unordered : ∀ right x y, Sides value right x y → x.isNaN = true ∨ y.isNaN = true →
    ∀ op, op.isNumeric = true → compareDynamic key op value right = .ok false
  /-- Equality and its denial fail together or deny each other. -/
  equality : ∀ right, (∃ e, compareDynamic key .eq value right = .error e ∧
      compareDynamic key .neq value right = .error e) ∨
    ∃ b, compareDynamic key .eq value right = .ok b ∧ compareDynamic key .neq value right = .ok !b
  /-- Equal numbers are in both weak orders. -/
  equal : ∀ right x y, Sides value right x y → x.isNaN = false → y.isNaN = false →
    compareDynamic key .eq value right = .ok true →
      compareDynamic key .geq value right = .ok true ∧
        compareDynamic key .leq value right = .ok true
  /-- Against a number of JSON, a claim that is a number is always compared. -/
  number : ∀ (n : Json.Number) x, Operand.number value = .ok x → ∀ op ∈ Operator.comparisons,
    ∃ b, compareDynamic key op value (.number n) = .ok b
  /-- Two texts may be compared from either end. -/
  swapped : ∀ other b, compareDynamic key .gt value (.string other) = .ok b ↔
    compareDynamic key .lt other (.string value) = .ok b

lemma sides_string {other : String} :
    Sides value (.string other) x y ↔ number value = .ok x ∧ number other = .ok y := by
  simp [Sides, scalar?]

/-- **The comparisons of a claim without a rule fit together.** -/
theorem coherent (key value : String) : Coherent key value := by
  constructor
  case together =>
    intro right
    cases hsides : sides key value right with
    | error e =>
      refine .inl ⟨e, fun op hop => ?_⟩
      rw [compareDynamic_of_isNumeric hop, hsides]
      rfl
    | ok p =>
      have hp : Sides value right p.1 p.2 := sides_eq_ok_iff.1 hsides
      exact .inr ⟨p.1, p.2, hp, fun op hop => ⟨_, compareDynamic_of_sides hop hp⟩⟩
  case ordered =>
    intro right x y h hx hy
    obtain ⟨o, ho⟩ := Double.exists_compare hx hy
    refine ⟨fun op => op.passes o, fun op hop => ?_, Operator.exactlyOne_passes_weak o,
      Operator.passes_geq o, Operator.passes_leq o⟩
    rw [compareDynamic_of_sides hop h, compareNumbers_of_compare ho]
  case unordered =>
    intro right x y h hnan op hop
    rw [compareDynamic_of_sides hop h, compareNumbers_of_isNaN hnan]
  case equality =>
    intro right
    cases hscalar : scalar? right with
    | none =>
      have hnone : needScalar key right =
          .error (.invalidRightOperand key (.expectedScalar right.text)) := by
        rw [needScalar, hscalar]
      refine .inl ⟨.invalidRightOperand key (.expectedScalar right.text), ?_, ?_⟩
      · rw [compareDynamic, if_neg (by decide), hnone]
        rfl
      · rw [compareDynamic, if_neg (by decide), hnone]
        rfl
    | some s =>
      obtain ⟨heq, hneq⟩ := compareDynamic_of_scalar key value hscalar
      exact .inr ⟨value == s, heq, hneq⟩
  case equal =>
    intro right x y h hx hy heq
    obtain ⟨hvalue, s, hs, hright⟩ := h
    have hsame : value = s := by
      rw [(compareDynamic_of_scalar key value hs).1, Except.ok.injEq, beq_iff_eq] at heq
      exact heq
    have hxy : x = y := by
      rw [hsame, hright] at hvalue
      exact (Except.ok.inj hvalue).symm
    subst hxy
    have hweak (op : Operator) := compareNumbers_of_compare (Double.compare_self hx) op
    have hsides : Sides value right x x := ⟨hvalue, s, hs, hright⟩
    rw [compareDynamic_of_sides rfl hsides, compareDynamic_of_sides rfl hsides, hweak, hweak]
    exact ⟨rfl, rfl⟩
  case number =>
    intro n x hx op hop
    obtain ⟨y, hy⟩ := exists_number_text n
    have hs : scalar? (.number n) = some n.text := rfl
    obtain ⟨heq, hneq⟩ := compareDynamic_of_scalar key value hs
    by_cases hnumeric : op.isNumeric = true
    · exact ⟨_, compareDynamic_of_sides hnumeric ⟨hx, n.text, hs, hy⟩⟩
    · cases op with
      | eq => exact ⟨_, heq⟩
      | neq => exact ⟨_, hneq⟩
      | gt | geq | lt | leq => exact absurd rfl hnumeric
      | _ => simp [Operator.comparisons] at hop
  case swapped =>
    intro other b
    rw [compareDynamic_eq_ok_iff rfl, compareDynamic_eq_ok_iff rfl]
    simp only [sides_string]
    constructor
    · rintro ⟨x, y, ⟨hx, hy⟩, h⟩
      exact ⟨y, x, ⟨hy, hx⟩, (compareNumbers_gt y x).symm.trans h⟩
    · rintro ⟨x, y, ⟨hx, hy⟩, h⟩
      exact ⟨y, x, ⟨hy, hx⟩, (compareNumbers_gt x y).trans h⟩

end Attestation
