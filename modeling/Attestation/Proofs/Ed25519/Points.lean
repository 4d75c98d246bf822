import Attestation.Ed25519.Scheme
import Attestation.Proofs.Ed25519.Edwards
import Attestation.Proofs.Ed25519.Field

/-!
Points in extended coordinates compute in the group of the curve.
-/

namespace Attestation.Ed25519

instance : Edwards.Complete (F := Residue) Point.d where
  two_ne_zero := Residue.two_ne_zero
  isSquare_neg_one := ⟨Residue.rootOfMinusOne, Residue.rootOfMinusOne_mul_self.symm⟩
  not_isSquare := fun ⟨r, hr⟩ => Residue.d_ne_mul_self r hr

/-- The group of the curve. -/
abbrev Group := Edwards.Curve (F := Residue) Point.d

namespace Point

/-- The extended coordinates stand for a point of the group. -/
structure Represents (p : Point) (a : Group) : Prop where
  z_ne_zero : p.z ≠ 0
  x_eq : p.x = a.x * p.z
  y_eq : p.y = a.y * p.z
  t_eq : p.t = a.x * a.y * p.z

lemma represents_zero : zero.Represents 0 :=
  ⟨one_ne_zero, (zero_mul _).symm, (mul_one _).symm, by simp [zero]⟩

lemma represents_ofAffine (a : Group) : (ofAffine a.x a.y).Represents a :=
  ⟨one_ne_zero, (mul_one _).symm, (mul_one _).symm, (mul_one _).symm⟩

variable {p q : Point} {a b : Group}

lemma Represents.neg (h : p.Represents a) : p.neg.Represents (-a) where
  z_ne_zero := h.z_ne_zero
  x_eq := by
    simp only [Point.neg, h.x_eq, Edwards.Curve.neg_x]
    ring
  y_eq := h.y_eq
  t_eq := by
    simp only [Point.neg, h.t_eq, Edwards.Curve.neg_x, Edwards.Curve.neg_y]
    ring

open Edwards.Curve (mix add_x add_y one_add_mix_ne_zero one_sub_mix_ne_zero)

/-- The four factors of a sum in extended coordinates. -/
lemma Represents.add_factors (hp : p.Represents a) (hq : q.Represents b) :
    (p.y + p.x) * (q.y + q.x) - (p.y - p.x) * (q.y - q.x) =
        2 * p.z * q.z * ((a + b).x * (1 + mix a b)) ∧
      (p.y + p.x) * (q.y + q.x) + (p.y - p.x) * (q.y - q.x) =
        2 * p.z * q.z * ((a + b).y * (1 - mix a b)) ∧
      p.z * 2 * q.z - p.t * 2 * d * q.t = 2 * p.z * q.z * (1 - mix a b) ∧
      p.z * 2 * q.z + p.t * 2 * d * q.t = 2 * p.z * q.z * (1 + mix a b) := by
  rw [add_x, add_y, hp.x_eq, hp.y_eq, hp.t_eq, hq.x_eq, hq.y_eq, hq.t_eq]
  unfold mix
  refine ⟨by ring, by ring, by ring, by ring⟩

lemma Represents.add (hp : p.Represents a) (hq : q.Represents b) :
    (p.add q).Represents (a + b) := by
  obtain ⟨hx, hy, hminus, hplus⟩ := hp.add_factors hq
  have hw : 2 * p.z * q.z ≠ 0 :=
    mul_ne_zero (mul_ne_zero Residue.two_ne_zero hp.z_ne_zero) hq.z_ne_zero
  unfold Point.add
  refine ⟨?_, ?_, ?_, ?_⟩ <;> dsimp only
  · rw [hminus, hplus]
    exact mul_ne_zero (mul_ne_zero hw (one_sub_mix_ne_zero a b))
      (mul_ne_zero hw (one_add_mix_ne_zero a b))
  · rw [hx, hminus, hplus]
    ring
  · rw [hy, hminus, hplus]
    ring
  · rw [hx, hy, hminus, hplus]
    ring

lemma Represents.times (n : ℕ) (h : p.Represents a) : (p.times n).Represents (n • a) := by
  induction n using Nat.strong_induction_on with
  | _ n ih =>
    rw [Point.times]
    split
    · rename_i h0
      rw [h0, zero_nsmul]
      exact represents_zero
    · rename_i h0
      have hhalf := ih (n / 2) (by omega)
      have hdouble := hhalf.add hhalf
      rw [← add_nsmul, ← two_mul] at hdouble
      dsimp only
      split
      · rwa [show 2 * (n / 2) = n by omega] at hdouble
      · have hodd := hdouble.add h
        rwa [← succ_nsmul, show 2 * (n / 2) + 1 = n by omega] at hodd

/-- The generator of the prime-order group, as a point of the group. -/
def generator : Group where
  x := base.x
  y := base.y
  equation := by
    have h : base.y * base.y - base.x * base.x = 1 + d * base.x * base.x * base.y * base.y := by
      decide +kernel
    exact h

lemma represents_base : base.Represents generator := represents_ofAffine generator

lemma Represents.eq_zero (h : p.Represents a) (hx : p.x = 0) (hy : p.y = p.z) : a = 0 := by
  refine Edwards.Curve.ext ?_ ?_
  · rw [h.x_eq] at hx
    exact (mul_eq_zero.1 hx).resolve_right h.z_ne_zero
  · rw [h.y_eq] at hy
    exact mul_right_cancel₀ h.z_ne_zero (hy.trans (one_mul _).symm)

/-- **The order of the generator.** -/
theorem order_nsmul_generator : order • generator = 0 :=
  (represents_base.times order).eq_zero (by decide +kernel) (by decide +kernel)

end Point

end Attestation.Ed25519
