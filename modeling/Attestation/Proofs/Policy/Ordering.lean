import Attestation.Policy.Operator
import Mathlib.Tactic.Lemma

/-!
The six comparisons of an order fit together, and they turn around with it.
-/

namespace Attestation

/-- One of the statements holds, and no two of them. -/
def ExactlyOne (p q r : Prop) : Prop := (p ∨ q ∨ r) ∧ ¬ (p ∧ q) ∧ ¬ (q ∧ r) ∧ ¬ (p ∧ r)

namespace Operator

/-- Whether the operator is a comparison that an order passes. -/
def passes (op : Operator) (o : Ordering) : Bool := (op.test o).getD false

/-- The operators that compare. -/
def comparisons : List Operator := [.eq, .neq, .gt, .geq, .lt, .leq]

/-- Every order is one of less, equal and greater, -/
lemma exactlyOne_passes (o : Ordering) :
    ExactlyOne (lt.passes o = true) (eq.passes o = true) (gt.passes o = true) := by
  unfold ExactlyOne
  cases o <;> decide

/-- and equal means that it is both of the others' weak forms. -/
lemma exactlyOne_passes_weak (o : Ordering) : ExactlyOne (lt.passes o = true) (gt.passes o = true)
    (geq.passes o = true ∧ leq.passes o = true) := by
  unfold ExactlyOne
  cases o <;> decide

lemma passes_geq (o : Ordering) : geq.passes o = !lt.passes o := by
  cases o <;> rfl

lemma passes_leq (o : Ordering) : leq.passes o = !gt.passes o := by
  cases o <;> rfl

lemma passes_neq (o : Ordering) : neq.passes o = !eq.passes o := by
  cases o <;> rfl

lemma passes_gt_swap (o : Ordering) : gt.passes o.swap = lt.passes o := by
  cases o <;> rfl

lemma test_eq_some_iff {op : Operator} {o : Ordering} :
    (∃ b, op.test o = some b) ↔ op ∈ comparisons := by
  cases op <;> simp [test, comparisons]

/-- An operator is a comparison whatever the order is. -/
lemma test_of_mem {op : Operator} (h : op ∈ comparisons) (o : Ordering) :
    op.test o = some (op.passes o) := by
  obtain ⟨b, hb⟩ := test_eq_some_iff.2 h
  rw [passes, hb]
  rfl

lemma test_of_not_mem {op : Operator} (h : op ∉ comparisons) (o : Ordering) : op.test o = none :=
  Option.eq_none_iff_forall_ne_some.2 fun b hb => h (test_eq_some_iff.1 ⟨b, hb⟩)

end Operator

end Attestation
