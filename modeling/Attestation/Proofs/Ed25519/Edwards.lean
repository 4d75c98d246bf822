import Mathlib.Algebra.Field.Basic
import Mathlib.Algebra.Group.Defs
import Mathlib.Tactic.LinearCombination
import Mathlib.Tactic.Ring

/-!
The points of a twisted Edwards curve form a group.

When minus one is a square and the constant of the curve is not, no denominator of the addition
law vanishes, so that one law covers every pair of points. It is associative because the
difference of the two sides is a combination of the curve equations of the three points.
-/

namespace Attestation.Ed25519.Edwards

variable {F : Type} [Field F]

/-! ### Identities between coordinates -/

section Identities

variable {d x1 y1 x2 y2 x3 y3 : F}

/-- The sum of two points is on the curve, denominators cleared. -/
lemma closed_of_equations (h1 : y1 * y1 - x1 * x1 = 1 + d * x1 * x1 * y1 * y1)
    (h2 : y2 * y2 - x2 * x2 = 1 + d * x2 * x2 * y2 * y2) :
    ((y1 * y2 + x1 * x2) * (1 + d * x1 * x2 * y1 * y2)) ^ 2 -
        ((x1 * y2 + x2 * y1) * (1 - d * x1 * x2 * y1 * y2)) ^ 2 =
      ((1 + d * x1 * x2 * y1 * y2) * (1 - d * x1 * x2 * y1 * y2)) ^ 2 +
        d * ((x1 * y2 + x2 * y1) * (y1 * y2 + x1 * x2)) ^ 2 := by
  linear_combination
    (d * x1 ^ 2 * y1 ^ 2 * x2 ^ 4 + 2 * d * x1 ^ 2 * y1 ^ 2 * x2 ^ 2
      + d * x1 ^ 2 * y1 ^ 2 * y2 ^ 4 - 2 * d * x1 ^ 2 * y1 ^ 2 * y2 ^ 2 + d * x1 ^ 2 * y1 ^ 2
      + 2 * x1 ^ 2 * y1 ^ 2 * x2 ^ 2 - 2 * x1 ^ 2 * y1 ^ 2 * y2 ^ 2 + 2 * x1 ^ 2 * y1 ^ 2
      - x1 ^ 2 * x2 ^ 2 + x1 ^ 2 * y2 ^ 2 - x1 ^ 2 + y1 ^ 2 * x2 ^ 2 - y1 ^ 2 * y2 ^ 2 + y1 ^ 2
      + 1) * h1 +
    (d ^ 3 * x1 ^ 4 * y1 ^ 4 * x2 ^ 2 * y2 ^ 2 - d ^ 2 * x1 ^ 4 * y1 ^ 4 * x2 ^ 2
      + d ^ 2 * x1 ^ 4 * y1 ^ 4 * y2 ^ 2 - d ^ 2 * x1 ^ 4 * y1 ^ 4 - 2 * d * x1 ^ 4 * y1 ^ 4
      - d * x1 ^ 4 * y1 ^ 2 * x2 ^ 2 + d * x1 ^ 4 * y1 ^ 2 * y2 ^ 2
      + d * x1 ^ 2 * y1 ^ 4 * x2 ^ 2 - d * x1 ^ 2 * y1 ^ 4 * y2 ^ 2 - 2 * d * x1 ^ 2 * y1 ^ 2
      - 2 * x1 ^ 4 * y1 ^ 2 + x1 ^ 4 + 2 * x1 ^ 2 * y1 ^ 4 - 4 * x1 ^ 2 * y1 ^ 2 + y1 ^ 4) * h2

lemma equation_of_mul {a b p q x y : F} (ha : a ≠ 0) (hb : b ≠ 0) (hx : x * a = p)
    (hy : y * b = q) (h : (q * a) ^ 2 - (p * b) ^ 2 = (a * b) ^ 2 + d * (p * q) ^ 2) :
    y * y - x * x = 1 + d * x * x * y * y := by
  subst hx hy
  refine mul_left_cancel₀ (pow_ne_zero 2 (mul_ne_zero ha hb)) ?_
  linear_combination h

/-- The first coordinate of a sum of three points, denominators cleared: its numerator. -/
def sumX (d x1 y1 x2 y2 x3 y3 : F) : F :=
  (x1 * y2 + x2 * y1) * (1 - d * x1 * x2 * y1 * y2) * y3 +
    (y1 * y2 + x1 * x2) * (1 + d * x1 * x2 * y1 * y2) * x3

/-- The numerator of the second coordinate. -/
def sumY (d x1 y1 x2 y2 x3 y3 : F) : F :=
  (y1 * y2 + x1 * x2) * (1 + d * x1 * x2 * y1 * y2) * y3 +
    (x1 * y2 + x2 * y1) * (1 - d * x1 * x2 * y1 * y2) * x3

/-- The denominators of the two coordinates, which differ in the sign of the second term. -/
def sumZ (s d x1 y1 x2 y2 x3 y3 : F) : F :=
  (1 + d * x1 * x2 * y1 * y2) * (1 - d * x1 * x2 * y1 * y2) +
    s * (d * ((x1 * y2 + x2 * y1) * (y1 * y2 + x1 * x2)) * x3 * y3)

lemma sumX_assoc (h1 : y1 * y1 - x1 * x1 = 1 + d * x1 * x1 * y1 * y1)
    (h2 : y2 * y2 - x2 * x2 = 1 + d * x2 * x2 * y2 * y2)
    (h3 : y3 * y3 - x3 * x3 = 1 + d * x3 * x3 * y3 * y3) :
    sumX d x1 y1 x2 y2 x3 y3 * sumZ 1 d x3 y3 x2 y2 x1 y1 =
      sumX d x3 y3 x2 y2 x1 y1 * sumZ 1 d x1 y1 x2 y2 x3 y3 := by
  unfold sumX sumZ
  linear_combination
    (-d ^ 2 * x1 * x2 ^ 4 * y2 ^ 3 * x3 ^ 2 * y3 - d ^ 2 * x1 * x2 ^ 3 * y2 ^ 4 * x3 * y3 ^ 2
      + d ^ 2 * y1 * x2 ^ 4 * y2 ^ 3 * x3 * y3 ^ 2 + d ^ 2 * y1 * x2 ^ 3 * y2 ^ 4 * x3 ^ 2 * y3
      - d * x1 * x2 ^ 4 * y2 * x3 ^ 2 * y3 - d * x1 * x2 ^ 3 * y2 ^ 2 * x3 ^ 3
      - d * x1 * x2 ^ 3 * y2 ^ 2 * x3 + d * x1 * x2 ^ 2 * y2 ^ 3 * y3 ^ 3
      - d * x1 * x2 ^ 2 * y2 ^ 3 * y3 + d * x1 * x2 * y2 ^ 4 * x3 * y3 ^ 2
      + d * y1 * x2 ^ 4 * y2 * x3 * y3 ^ 2 + d * y1 * x2 ^ 3 * y2 ^ 2 * y3 ^ 3
      - d * y1 * x2 ^ 3 * y2 ^ 2 * y3 - d * y1 * x2 ^ 2 * y2 ^ 3 * x3 ^ 3
      - d * y1 * x2 ^ 2 * y2 ^ 3 * x3 - d * y1 * x2 * y2 ^ 4 * x3 ^ 2 * y3) * h1 +
    (d * x1 ^ 3 * x2 ^ 2 * y2 * x3 ^ 2 * y3 + d * x1 ^ 3 * x2 * y2 ^ 2 * x3 * y3 ^ 2
      - d * x1 ^ 2 * y1 * x2 ^ 2 * y2 * x3 ^ 3 - d * x1 ^ 2 * y1 * x2 ^ 2 * y2 * x3
      - d * x1 ^ 2 * y1 * x2 * y2 ^ 2 * y3 ^ 3 + d * x1 ^ 2 * y1 * x2 * y2 ^ 2 * y3
      - d * x1 * y1 ^ 2 * x2 ^ 2 * y2 * y3 ^ 3 + d * x1 * y1 ^ 2 * x2 ^ 2 * y2 * y3
      - d * x1 * y1 ^ 2 * x2 * y2 ^ 2 * x3 ^ 3 - d * x1 * y1 ^ 2 * x2 * y2 ^ 2 * x3
      + d * x1 * x2 ^ 2 * y2 * x3 ^ 2 * y3 + d * x1 * x2 * y2 ^ 2 * x3 * y3 ^ 2
      + d * y1 ^ 3 * x2 ^ 2 * y2 * x3 * y3 ^ 2 + d * y1 ^ 3 * x2 * y2 ^ 2 * x3 ^ 2 * y3
      - d * y1 * x2 ^ 2 * y2 * x3 * y3 ^ 2 - d * y1 * x2 * y2 ^ 2 * x3 ^ 2 * y3) * h2 +
    (d ^ 2 * x1 ^ 2 * y1 * x2 ^ 4 * y2 ^ 3 * x3 - d ^ 2 * x1 ^ 2 * y1 * x2 ^ 3 * y2 ^ 4 * y3
      - d ^ 2 * x1 * y1 ^ 2 * x2 ^ 4 * y2 ^ 3 * y3 + d ^ 2 * x1 * y1 ^ 2 * x2 ^ 3 * y2 ^ 4 * x3
      + d * x1 ^ 3 * x2 ^ 3 * y2 ^ 2 * x3 + d * x1 ^ 3 * x2 ^ 2 * y2 ^ 3 * y3
      + d * x1 ^ 2 * y1 * x2 ^ 4 * y2 * x3 + d * x1 ^ 2 * y1 * x2 * y2 ^ 4 * y3
      - d * x1 * y1 ^ 2 * x2 ^ 4 * y2 * y3 - d * x1 * y1 ^ 2 * x2 * y2 ^ 4 * x3
      + d * x1 * x2 ^ 3 * y2 ^ 2 * x3 + d * x1 * x2 ^ 2 * y2 ^ 3 * y3
      - d * y1 ^ 3 * x2 ^ 3 * y2 ^ 2 * y3 - d * y1 ^ 3 * x2 ^ 2 * y2 ^ 3 * x3
      + d * y1 * x2 ^ 3 * y2 ^ 2 * y3 + d * y1 * x2 ^ 2 * y2 ^ 3 * x3) * h3

lemma sumY_assoc (h1 : y1 * y1 - x1 * x1 = 1 + d * x1 * x1 * y1 * y1)
    (h2 : y2 * y2 - x2 * x2 = 1 + d * x2 * x2 * y2 * y2)
    (h3 : y3 * y3 - x3 * x3 = 1 + d * x3 * x3 * y3 * y3) :
    sumY d x1 y1 x2 y2 x3 y3 * sumZ (-1) d x3 y3 x2 y2 x1 y1 =
      sumY d x3 y3 x2 y2 x1 y1 * sumZ (-1) d x1 y1 x2 y2 x3 y3 := by
  unfold sumY sumZ
  linear_combination
    (d ^ 2 * x1 * x2 ^ 4 * y2 ^ 3 * x3 * y3 ^ 2 + d ^ 2 * x1 * x2 ^ 3 * y2 ^ 4 * x3 ^ 2 * y3
      - d ^ 2 * y1 * x2 ^ 4 * y2 ^ 3 * x3 ^ 2 * y3 - d ^ 2 * y1 * x2 ^ 3 * y2 ^ 4 * x3 * y3 ^ 2
      + d * x1 * x2 ^ 4 * y2 * x3 * y3 ^ 2 + d * x1 * x2 ^ 3 * y2 ^ 2 * y3 ^ 3
      - d * x1 * x2 ^ 3 * y2 ^ 2 * y3 - d * x1 * x2 ^ 2 * y2 ^ 3 * x3 ^ 3
      - d * x1 * x2 ^ 2 * y2 ^ 3 * x3 - d * x1 * x2 * y2 ^ 4 * x3 ^ 2 * y3
      - d * y1 * x2 ^ 4 * y2 * x3 ^ 2 * y3 - d * y1 * x2 ^ 3 * y2 ^ 2 * x3 ^ 3
      - d * y1 * x2 ^ 3 * y2 ^ 2 * x3 + d * y1 * x2 ^ 2 * y2 ^ 3 * y3 ^ 3
      - d * y1 * x2 ^ 2 * y2 ^ 3 * y3 + d * y1 * x2 * y2 ^ 4 * x3 * y3 ^ 2) * h1 +
    (-d * x1 ^ 3 * x2 ^ 2 * y2 * x3 * y3 ^ 2 - d * x1 ^ 3 * x2 * y2 ^ 2 * x3 ^ 2 * y3
      + d * x1 ^ 2 * y1 * x2 ^ 2 * y2 * y3 ^ 3 - d * x1 ^ 2 * y1 * x2 ^ 2 * y2 * y3
      + d * x1 ^ 2 * y1 * x2 * y2 ^ 2 * x3 ^ 3 + d * x1 ^ 2 * y1 * x2 * y2 ^ 2 * x3
      + d * x1 * y1 ^ 2 * x2 ^ 2 * y2 * x3 ^ 3 + d * x1 * y1 ^ 2 * x2 ^ 2 * y2 * x3
      + d * x1 * y1 ^ 2 * x2 * y2 ^ 2 * y3 ^ 3 - d * x1 * y1 ^ 2 * x2 * y2 ^ 2 * y3
      - d * x1 * x2 ^ 2 * y2 * x3 * y3 ^ 2 - d * x1 * x2 * y2 ^ 2 * x3 ^ 2 * y3
      - d * y1 ^ 3 * x2 ^ 2 * y2 * x3 ^ 2 * y3 - d * y1 ^ 3 * x2 * y2 ^ 2 * x3 * y3 ^ 2
      + d * y1 * x2 ^ 2 * y2 * x3 ^ 2 * y3 + d * y1 * x2 * y2 ^ 2 * x3 * y3 ^ 2) * h2 +
    (d ^ 2 * x1 ^ 2 * y1 * x2 ^ 4 * y2 ^ 3 * y3 - d ^ 2 * x1 ^ 2 * y1 * x2 ^ 3 * y2 ^ 4 * x3
      - d ^ 2 * x1 * y1 ^ 2 * x2 ^ 4 * y2 ^ 3 * x3 + d ^ 2 * x1 * y1 ^ 2 * x2 ^ 3 * y2 ^ 4 * y3
      + d * x1 ^ 3 * x2 ^ 3 * y2 ^ 2 * y3 + d * x1 ^ 3 * x2 ^ 2 * y2 ^ 3 * x3
      + d * x1 ^ 2 * y1 * x2 ^ 4 * y2 * y3 + d * x1 ^ 2 * y1 * x2 * y2 ^ 4 * x3
      - d * x1 * y1 ^ 2 * x2 ^ 4 * y2 * x3 - d * x1 * y1 ^ 2 * x2 * y2 ^ 4 * y3
      + d * x1 * x2 ^ 3 * y2 ^ 2 * y3 + d * x1 * x2 ^ 2 * y2 ^ 3 * x3
      - d * y1 ^ 3 * x2 ^ 3 * y2 ^ 2 * x3 - d * y1 ^ 3 * x2 ^ 2 * y2 ^ 3 * y3
      + d * y1 * x2 ^ 3 * y2 ^ 2 * x3 + d * y1 * x2 ^ 2 * y2 ^ 3 * y3) * h3

end Identities

/-! ### Denominators -/

/-- The constant of a curve whose addition law has no exceptions. -/
class Complete (d : F) : Prop where
  two_ne_zero : (2 : F) ≠ 0
  isSquare_neg_one : IsSquare (-1 : F)
  not_isSquare : ¬ IsSquare d

section Denominators

variable {d x1 y1 x2 y2 : F} [hd : Complete d]

include hd in
/-- With `d x1 x2 y1 y2 = ±1` the constant would be a square, or the second point zero. -/
lemma mul_add_eq_zero {i : F} (hi : i * i = -1)
    (h1 : y1 * y1 - x1 * x1 = 1 + d * x1 * x1 * y1 * y1)
    (h2 : y2 * y2 - x2 * x2 = 1 + d * x2 * x2 * y2 * y2)
    (h : (d * x1 * x2 * y1 * y2) ^ 2 = 1) (hx : x1 ≠ 0) (hy : y1 ≠ 0) : i * x2 + y2 = 0 := by
  by_contra hne
  have hkey : d * (x1 * y1 * (i * x2 + y2)) ^ 2 =
      (i * x1 + d * x1 * x2 * y1 * y2 * y1) ^ 2 := by
    linear_combination (d * x1 ^ 2 * y1 ^ 2 * x2 ^ 2 - x1 ^ 2) * hi + d * x1 ^ 2 * y1 ^ 2 * h2 +
      (1 - y1 ^ 2) * h - h1
  refine hd.not_isSquare ⟨(i * x1 + d * x1 * x2 * y1 * y2 * y1) / (x1 * y1 * (i * x2 + y2)), ?_⟩
  rw [div_mul_div_comm, ← pow_two, ← pow_two, ← hkey,
    mul_div_cancel_right₀ _ (pow_ne_zero 2 (mul_ne_zero (mul_ne_zero hx hy) hne))]

include hd in
/-- **No denominator of the addition law vanishes.** -/
theorem mix_sq_ne_one (h1 : y1 * y1 - x1 * x1 = 1 + d * x1 * x1 * y1 * y1)
    (h2 : y2 * y2 - x2 * x2 = 1 + d * x2 * x2 * y2 * y2) :
    (d * x1 * x2 * y1 * y2) ^ 2 ≠ 1 := by
  intro h
  obtain ⟨i, hi⟩ := hd.isSquare_neg_one
  have hx : x1 ≠ 0 := by
    rintro rfl
    simp at h
  have hy : y1 ≠ 0 := by
    rintro rfl
    simp at h
  have hplus := mul_add_eq_zero hi.symm h1 h2 h hx hy
  have hminus := mul_add_eq_zero (i := -i) (by rw [neg_mul_neg, ← hi]) h1 h2 h hx hy
  have hy2 : y2 = 0 := by
    have hsum : 2 * y2 = 0 := by linear_combination hplus + hminus
    exact (mul_eq_zero.1 hsum).resolve_left hd.two_ne_zero
  simp [hy2] at h

end Denominators

/-! ### The group -/

/-- A point of the curve `-x² + y² = 1 + d x² y²`. -/
@[ext]
structure Curve (d : F) where
  x : F
  y : F
  equation : y * y - x * x = 1 + d * x * x * y * y

namespace Curve

variable {d : F}

/-- The term by which the denominators of a sum differ from one. -/
def mix (p q : Curve d) : F := d * p.x * q.x * p.y * q.y

lemma mix_comm (p q : Curve d) : mix p q = mix q p := by
  unfold mix
  ring

instance : Zero (Curve d) := ⟨⟨0, 1, by ring⟩⟩

instance : Neg (Curve d) := ⟨fun p => ⟨-p.x, p.y, by linear_combination p.equation⟩⟩

@[simp] lemma zero_x : (0 : Curve d).x = 0 := rfl
@[simp] lemma zero_y : (0 : Curve d).y = 1 := rfl
@[simp] lemma neg_x (p : Curve d) : (-p).x = -p.x := rfl
@[simp] lemma neg_y (p : Curve d) : (-p).y = p.y := rfl

variable [hd : Complete d]

lemma one_add_mix_ne_zero (p q : Curve d) : 1 + mix p q ≠ 0 := by
  intro h
  refine mix_sq_ne_one (d := d) p.equation q.equation ?_
  change mix p q ^ 2 = 1
  linear_combination (mix p q - 1) * h

lemma one_sub_mix_ne_zero (p q : Curve d) : 1 - mix p q ≠ 0 := by
  intro h
  refine mix_sq_ne_one (d := d) p.equation q.equation ?_
  change mix p q ^ 2 = 1
  linear_combination -(1 + mix p q) * h

instance : Add (Curve d) := ⟨fun p q =>
  ⟨(p.x * q.y + q.x * p.y) / (1 + mix p q), (p.y * q.y + p.x * q.x) / (1 - mix p q),
    equation_of_mul (one_add_mix_ne_zero p q) (one_sub_mix_ne_zero p q)
      (div_mul_cancel₀ _ (one_add_mix_ne_zero p q)) (div_mul_cancel₀ _ (one_sub_mix_ne_zero p q))
      (closed_of_equations p.equation q.equation)⟩⟩

lemma add_x (p q : Curve d) : (p + q).x * (1 + mix p q) = p.x * q.y + q.x * p.y :=
  div_mul_cancel₀ _ (one_add_mix_ne_zero p q)

lemma add_y (p q : Curve d) : (p + q).y * (1 - mix p q) = p.y * q.y + p.x * q.x :=
  div_mul_cancel₀ _ (one_sub_mix_ne_zero p q)

lemma eq_add_iff {p q r : Curve d} : r = p + q ↔
    r.x * (1 + mix p q) = p.x * q.y + q.x * p.y ∧ r.y * (1 - mix p q) = p.y * q.y + p.x * q.x := by
  constructor
  · rintro rfl
    exact ⟨add_x p q, add_y p q⟩
  · rintro ⟨hx, hy⟩
    refine Curve.ext ?_ ?_
    · exact mul_right_cancel₀ (one_add_mix_ne_zero p q) (hx.trans (add_x p q).symm)
    · exact mul_right_cancel₀ (one_sub_mix_ne_zero p q) (hy.trans (add_y p q).symm)

protected lemma add_comm (p q : Curve d) : p + q = q + p := by
  refine eq_add_iff.2 ⟨?_, ?_⟩
  · rw [mix_comm q p, add_x]
    ring
  · rw [mix_comm q p, add_y]
    ring

protected lemma zero_add (p : Curve d) : 0 + p = p := by
  refine (eq_add_iff.2 ⟨?_, ?_⟩).symm <;> simp [mix]

protected lemma neg_add_cancel (p : Curve d) : -p + p = 0 := by
  refine (eq_add_iff.2 ⟨?_, ?_⟩).symm
  · simp only [zero_x, neg_x, neg_y]
    ring
  · simp only [zero_y, neg_x, neg_y, mix]
    linear_combination -p.equation

/-- The coordinates of a sum of three points, denominators cleared. -/
lemma add_add_coordinates (p q r : Curve d) :
    (p + q + r).x * sumZ 1 d p.x p.y q.x q.y r.x r.y = sumX d p.x p.y q.x q.y r.x r.y ∧
      (p + q + r).y * sumZ (-1) d p.x p.y q.x q.y r.x r.y = sumY d p.x p.y q.x q.y r.x r.y ∧
      sumZ 1 d p.x p.y q.x q.y r.x r.y ≠ 0 ∧ sumZ (-1) d p.x p.y q.x q.y r.x r.y ≠ 0 := by
  have hx := add_x p q
  have hy := add_y p q
  have hx' := add_x (p + q) r
  have hy' := add_y (p + q) r
  have hmix : mix (p + q) r * ((1 + mix p q) * (1 - mix p q)) =
      d * ((p.x * q.y + q.x * p.y) * (p.y * q.y + p.x * q.x)) * r.x * r.y := by
    rw [← hx, ← hy]
    unfold mix
    ring
  have hz (s : F) : sumZ s d p.x p.y q.x q.y r.x r.y =
      (1 + mix p q) * (1 - mix p q) * (1 + s * mix (p + q) r) := by
    unfold sumZ
    rw [← hmix]
    unfold mix
    ring
  have hne : (1 + mix p q) * (1 - mix p q) ≠ 0 :=
    mul_ne_zero (one_add_mix_ne_zero p q) (one_sub_mix_ne_zero p q)
  refine ⟨?_, ?_, ?_, ?_⟩
  · rw [hz]
    unfold sumX
    change _ = (p.x * q.y + q.x * p.y) * (1 - mix p q) * r.y +
      (p.y * q.y + p.x * q.x) * (1 + mix p q) * r.x
    rw [← hx, ← hy]
    linear_combination (1 + mix p q) * (1 - mix p q) * hx'
  · rw [hz]
    unfold sumY
    change _ = (p.y * q.y + p.x * q.x) * (1 + mix p q) * r.y +
      (p.x * q.y + q.x * p.y) * (1 - mix p q) * r.x
    rw [← hx, ← hy]
    linear_combination (1 + mix p q) * (1 - mix p q) * hy'
  · rw [hz, one_mul]
    exact mul_ne_zero hne (one_add_mix_ne_zero _ _)
  · rw [hz, neg_one_mul, ← sub_eq_add_neg]
    exact mul_ne_zero hne (one_sub_mix_ne_zero _ _)

/-- **Addition is associative.** -/
protected theorem add_assoc (p q r : Curve d) : p + q + r = p + (q + r) := by
  obtain ⟨hx, hy, hz1, hz2⟩ := add_add_coordinates p q r
  obtain ⟨hx', hy', hz1', hz2'⟩ := add_add_coordinates r q p
  have hswap : p + (q + r) = r + q + p := by rw [Curve.add_comm, Curve.add_comm q r]
  rw [hswap]
  refine Curve.ext ?_ ?_
  · refine mul_right_cancel₀ (mul_ne_zero hz1 hz1') ?_
    linear_combination sumZ 1 d r.x r.y q.x q.y p.x p.y * hx -
      sumZ 1 d p.x p.y q.x q.y r.x r.y * hx' + sumX_assoc p.equation q.equation r.equation
  · refine mul_right_cancel₀ (mul_ne_zero hz2 hz2') ?_
    linear_combination sumZ (-1) d r.x r.y q.x q.y p.x p.y * hy -
      sumZ (-1) d p.x p.y q.x q.y r.x r.y * hy' + sumY_assoc p.equation q.equation r.equation

instance : AddCommGroup (Curve d) where
  add_assoc := Curve.add_assoc
  zero_add := Curve.zero_add
  add_zero p := by rw [Curve.add_comm, Curve.zero_add]
  nsmul := nsmulRec
  zsmul := zsmulRec
  neg_add_cancel := Curve.neg_add_cancel
  add_comm := Curve.add_comm

end Curve

end Attestation.Ed25519.Edwards
