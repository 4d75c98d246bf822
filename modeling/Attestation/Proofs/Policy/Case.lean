import Attestation.Policy.Rule
import Attestation.Proofs.Text.Case

/-!
Rules that ignore case.

Such a rule compares lowered texts. So it never matters which letters of ASCII are capitals nor
which of the two texts is the claim, a text is equal to what it is lowered to, and between texts of
ASCII nothing but the case of letters is ignored.
-/

namespace Attestation.Rule

/-- What an equality promises that ignores case. -/
structure IgnoresCase (r : Rule) : Prop where
  /-- Any two texts are compared. -/
  decided : ∀ value expected, ∃ b, r.compare .eq value (.string expected) = .ok b
  /-- Letters of ASCII may switch case on either side. -/
  switched : ∀ value value' expected expected', Text.Switched value value' →
    Text.Switched expected expected' →
      r.compare .eq value (.string expected) = r.compare .eq value' (.string expected')
  /-- The two sides may be swapped. -/
  swapped : ∀ value expected,
    r.compare .eq value (.string expected) = r.compare .eq expected (.string value)
  /-- A text is equal to itself, -/
  itself : ∀ value, r.compare .eq value (.string value) = .ok true
  /-- and to its full lower case. -/
  lowered : ∀ value, r.compare .eq value (.string (Text.lower value)) = .ok true
  /-- Texts of ASCII are equal if they differ in the case of letters alone. -/
  ascii : ∀ value expected, (∀ c ∈ value.toList, Text.isAscii c = true) →
    (∀ c ∈ expected.toList, Text.isAscii c = true) →
      (r.compare .eq value (.string expected) = .ok true ↔ Text.Switched value expected)

variable {r : Rule}

lemma compare_of_caseInsensitive (hallows : r.allows .eq = true)
    (hcase : r.comparison = .caseInsensitive) (value expected : String) :
    r.compare .eq value (.string expected) =
      .ok (Text.lowerChars value.toList == Text.lowerChars expected.toList) := by
  have hoperand : r.scalarOperand (.string expected) = .ok expected := by
    unfold scalarOperand
    cases r.stringOperand <;> rfl
  have hequals : r.equals value expected =
      (Text.lowerChars value.toList == Text.lowerChars expected.toList) := by
    rw [equals, hcase]
  rw [compare, hallows, ← hequals]
  simp only [Bool.not_true, Bool.false_eq_true, if_false, hoperand]
  rfl

lemma ignoresCase_of_caseInsensitive (hallows : r.allows .eq = true)
    (hcase : r.comparison = .caseInsensitive) : r.IgnoresCase := by
  have hcompare := compare_of_caseInsensitive hallows hcase
  have htrue (value expected : String) : r.compare .eq value (.string expected) = .ok true ↔
      Text.lowerChars value.toList = Text.lowerChars expected.toList := by
    rw [hcompare, Except.ok.injEq, beq_iff_eq]
  constructor
  case decided => exact fun value expected => ⟨_, hcompare value expected⟩
  case switched =>
    intro value value' expected expected' hvalue hexpected
    rw [hcompare, hcompare, Text.lowerChars_eq_of_switched hvalue,
      Text.lowerChars_eq_of_switched hexpected]
  case swapped =>
    intro value expected
    rw [hcompare, hcompare, Bool.beq_comm]
  case itself => exact fun value => (htrue value value).2 rfl
  case lowered =>
    intro value
    rw [htrue, Text.lower, String.toList_ofList]
    exact (Text.lowerChars_lowerChars value.toList).symm
  case ascii =>
    intro value expected hvalue hexpected
    rw [htrue, Text.switched_iff, Text.lowerChars, Text.lowerChars,
      Text.lowerAfter_of_ascii [] hvalue, Text.lowerAfter_of_ascii [] hexpected]

/-- **Countries and types of entities are compared without regard to case.** -/
theorem ignoresCase_country_entityType : country.IgnoresCase ∧ entityType.IgnoresCase :=
  ⟨ignoresCase_of_caseInsensitive rfl rfl, ignoresCase_of_caseInsensitive rfl rfl⟩

end Attestation.Rule
