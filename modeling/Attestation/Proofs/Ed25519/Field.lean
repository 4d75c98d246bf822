import Attestation.Proofs.Ed25519.Prime
import Mathlib.FieldTheory.Finite.Basic
import Mathlib.Tactic.LinearCombination

/-!
The residues are a field in which minus one is a square and the constant of the curve is not,
and in which the square root of a ratio is found whenever there is one.
-/

namespace Attestation.Ed25519

instance : Fact prime.Prime := ⟨prime_prime⟩

namespace Residue

open Fin.CommRing in
lemma isField : IsField Residue :=
  (ZMod.finEquiv prime).toMulEquiv.isField (Field.toIsField (ZMod prime))

open Fin.CommRing in
noncomputable instance : Field Residue := isField.toField

lemma two_ne_zero : (2 : Residue) ≠ 0 := by decide

lemma pow_eq (x : Residue) (n : ℕ) : x.pow n = x ^ n := by
  induction n using Nat.strong_induction_on with
  | _ n ih =>
    rw [pow]
    split
    · rename_i h0
      rw [h0, pow_zero]
    · rename_i h0
      have hsq : x.pow (n / 2) * x.pow (n / 2) = x ^ (2 * (n / 2)) := by
        rw [ih (n / 2) (by omega), ← pow_add, two_mul]
      dsimp only
      split
      · rw [hsq, show 2 * (n / 2) = n by omega]
      · rw [hsq, ← pow_succ, show 2 * (n / 2) + 1 = n by omega]

lemma pow_prime_sub_one {x : Residue} (hx : x ≠ 0) : x ^ (prime - 1) = 1 := by
  have hcard : Fintype.card Residue = prime := Fintype.card_fin prime
  have h := FiniteField.pow_card_sub_one_eq_one x hx
  rwa [hcard] at h

lemma inv_eq {x : Residue} (hx : x ≠ 0) : x.inv = x⁻¹ := by
  have hmul : x ^ (prime - 2) * x = x ^ (prime - 1) := (pow_succ x (prime - 2)).symm
  rw [inv, pow_eq]
  exact eq_inv_of_mul_eq_one_left (hmul.trans (pow_prime_sub_one hx))

/-! ### Squares -/

lemma rootOfMinusOne_mul_self : rootOfMinusOne * rootOfMinusOne = -1 := by decide +kernel

/-- A half of the group of units is not the unit: the constant of the curve is no square. -/
lemma d_ne_mul_self (r : Residue) : Point.d ≠ r * r := by
  intro h
  have hd : Point.d.pow ((prime - 1) / 2) = -1 := by decide +kernel
  have hr : r ≠ 0 := by
    rintro rfl
    exact absurd h (by decide)
  rw [pow_eq, h, ← pow_two, ← pow_mul] at hd
  have hone := pow_prime_sub_one hr
  rw [show prime - 1 = 2 * ((prime - 1) / 2) by decide, hd] at hone
  exact absurd hone (by decide)

/-! ### Parity -/

lemma val_neg {x : Residue} (hx : x ≠ 0) : (-x).val = prime - x.val := by
  have h0 : x.val ≠ 0 := fun h => hx (Fin.ext h)
  rw [Fin.val_neg', Nat.mod_eq_of_lt (by omega)]

/-- Of a residue and its negative, the even one. -/
def even (x : Residue) : Residue := if x.isOdd then -x else x

lemma isOdd_neg {x : Residue} (hx : x ≠ 0) : (-x).isOdd = !x.isOdd := by
  have hlt := x.isLt
  have hprime : prime % 2 = 1 := by decide
  have hsum : (prime - x.val) % 2 = 1 - x.val % 2 := by omega
  rw [isOdd, isOdd, val_neg hx, hsum]
  rcases Nat.mod_two_eq_zero_or_one x.val with h | h <;> rw [h] <;> rfl

lemma even_neg (x : Residue) : (-x).even = x.even := by
  rcases eq_or_ne x 0 with rfl | hx
  · rw [neg_zero]
  · unfold even
    rw [isOdd_neg hx]
    cases x.isOdd <;> simp

lemma even_eq_of_mul_self_eq {x y : Residue} (h : x * x = y * y) : x.even = y.even := by
  rcases mul_self_eq_mul_self_iff.1 h with rfl | rfl
  · rfl
  · exact even_neg y

/-! ### Square roots of ratios -/

/-- The check value of the square root algorithm, for a ratio that is a square: the ratio's
numerator up to sign. -/
lemma sqrt_check {u v x t : Residue} (hu : u = x * x * v)
    (ht : t = (u * (v * v * v) * (v * v * v) * v).pow ((prime - 5) / 8)) :
    v * (u * (v * v * v) * t * (u * (v * v * v) * t)) =
      u * (x * (v * v * v * v)) ^ ((prime - 1) / 2) := by
  set w := x * (v * v * v * v) with hw
  have hbase : u * (v * v * v) * (v * v * v) * v = w * w := by rw [hu, hw]; ring
  have hexp : 2 * ((prime - 5) / 8) + 2 * ((prime - 5) / 8) + 2 = (prime - 1) / 2 := by decide
  rw [pow_eq, hbase, ← pow_two, ← pow_mul] at ht
  calc v * (u * (v * v * v) * t * (u * (v * v * v) * t))
      = u * (t * t * (u * (v * v * v) * (v * v * v) * v)) := by ring
    _ = u * (t * t * (w * w)) := by rw [hbase]
    _ = u * w ^ ((prime - 1) / 2) := by
      rw [ht, ← pow_add, ← pow_two w, ← pow_add, hexp]

/-- **The ratio of a square by one is found to be a square.** -/
theorem sqrtRatio?_eq {u v x : Residue} (hv : v ≠ 0) (hu : u = x * x * v) :
    sqrtRatio? u v = some x.even := by
  set r := u * (v * v * v) *
    (u * (v * v * v) * (v * v * v) * v).pow ((prime - 5) / 8) with hr
  set s := (x * (v * v * v * v)) ^ ((prime - 1) / 2) with hs
  have hcheck : v * (r * r) = u * s := sqrt_check hu rfl
  have hroot {y : Residue} (hy : v * (y * y) = u) : y.even = x.even := by
    refine even_eq_of_mul_self_eq (mul_left_cancel₀ hv ?_)
    rw [hy, hu]
    ring
  have hunfold : sqrtRatio? u v = Option.map even (if v * (r * r) = u then some r
      else if v * (r * r) = -u then some (r * rootOfMinusOne) else none) := rfl
  rw [hunfold]
  rcases eq_or_ne x 0 with h0 | h0
  · have hzero : v * (r * r) = u := by rw [hcheck, hu, h0]; ring
    rw [if_pos hzero, Option.map_some, hroot hzero]
  · have hu0 : u ≠ 0 := by
      rw [hu]
      exact mul_ne_zero (mul_ne_zero h0 h0) hv
    have hw0 : x * (v * v * v * v) ≠ 0 :=
      mul_ne_zero h0 (mul_ne_zero (mul_ne_zero (mul_ne_zero hv hv) hv) hv)
    have hsq : s * s = 1 * 1 := by
      rw [hs, ← pow_add, mul_one, show (prime - 1) / 2 + (prime - 1) / 2 = prime - 1 by decide]
      exact pow_prime_sub_one hw0
    rcases mul_self_eq_mul_self_iff.1 hsq with h1 | h1
    · have hplus : v * (r * r) = u := by rw [hcheck, h1, mul_one]
      rw [if_pos hplus, Option.map_some, hroot hplus]
    · have hminus : v * (r * r) = -u := by rw [hcheck, h1]; ring
      have hne : v * (r * r) ≠ u := by
        rw [hminus]
        intro h
        have h2 : 2 * u = 0 := by linear_combination -h
        exact (mul_ne_zero two_ne_zero hu0) h2
      have hy : v * (r * rootOfMinusOne * (r * rootOfMinusOne)) = u := by
        linear_combination -hminus + v * (r * r) * rootOfMinusOne_mul_self
      rw [if_neg hne, if_pos hminus, Option.map_some, hroot hy]

end Residue

end Attestation.Ed25519
