import Attestation.Proofs.Ed25519.Points

/-!
The encoding of a point depends on the point of the group alone, and is read back as it.
-/

namespace Attestation.Ed25519

/-! ### Little-endian bytes -/

lemma length_littleEndian (k n : ℕ) : (littleEndian k n).length = k := by
  induction k generalizing n with
  | zero => rfl
  | succ k ih => rw [littleEndian, List.length_cons, ih]

lemma ofLittleEndian_littleEndian {k n : ℕ} (h : n < 256 ^ k) :
    ofLittleEndian (littleEndian k n) = n := by
  induction k generalizing n with
  | zero =>
    rw [pow_zero] at h
    exact (Nat.lt_one_iff.1 h).symm
  | succ k ih =>
    have hrest : n / 256 < 256 ^ k := by
      rw [Nat.div_lt_iff_lt_mul (by omega)]
      rwa [pow_succ] at h
    have hbyte : (UInt8.ofNat n).toNat = n % 256 := UInt8.toNat_ofNat'
    rw [littleEndian, ofLittleEndian, ih hrest, hbyte, Nat.mod_add_div]

/-! ### Points -/

namespace Point

lemma prime_lt_signBit : prime < signBit := by decide

/-- The number that stands for a point: the second coordinate with the parity of the first. -/
def code (a : Group) : ℕ := a.y.val + if a.x.isOdd then signBit else 0

lemma code_mod (a : Group) : code a % signBit = a.y.val := by
  have hy : a.y.val < signBit := lt_trans a.y.isLt prime_lt_signBit
  unfold code
  split
  · rw [Nat.add_mod_right, Nat.mod_eq_of_lt hy]
  · rw [add_zero, Nat.mod_eq_of_lt hy]

lemma code_div (a : Group) :
    code a / signBit = if a.x.isOdd then 1 else 0 := by
  have hy : a.y.val < signBit := lt_trans a.y.isLt prime_lt_signBit
  unfold code
  split
  · rw [Nat.add_div_right _ (by decide), Nat.div_eq_of_lt hy]
  · rw [add_zero, Nat.div_eq_of_lt hy]

lemma code_lt (a : Group) : code a < 256 ^ 32 := by
  have hy : a.y.val < signBit := lt_trans a.y.isLt prime_lt_signBit
  have hbit : signBit + signBit = 256 ^ 32 := by decide
  unfold code
  split <;> omega

variable {p : Point} {a : Group}

lemma Represents.encode_eq (h : p.Represents a) :
    p.encode = littleEndian 32 (code a) := by
  have hx : p.x * p.z.inv = a.x := by
    rw [Residue.inv_eq h.z_ne_zero, h.x_eq, mul_assoc, mul_inv_cancel₀ h.z_ne_zero, mul_one]
  have hy : p.y * p.z.inv = a.y := by
    rw [Residue.inv_eq h.z_ne_zero, h.y_eq, mul_assoc, mul_inv_cancel₀ h.z_ne_zero, mul_one]
  unfold encode code
  dsimp only
  rw [hx, hy]

lemma length_encode (p : Point) : p.encode.length = 32 := length_littleEndian 32 _

/-- The denominator of the ratio whose root is the first coordinate. -/
lemma denominator_ne_zero (y : Residue) : d * (y * y) + 1 ≠ 0 := by
  intro h
  have hy : y ≠ 0 := by
    rintro rfl
    simp at h
  refine Residue.d_ne_mul_self (Residue.rootOfMinusOne * y⁻¹) ?_
  calc d = (d * (y * y) + 1 - 1) * (y⁻¹ * y⁻¹) := by field_simp; ring
    _ = Residue.rootOfMinusOne * y⁻¹ * (Residue.rootOfMinusOne * y⁻¹) := by
      linear_combination (y⁻¹ * y⁻¹) * h - (y⁻¹ * y⁻¹) * Residue.rootOfMinusOne_mul_self

/-- The parity of a residue tells which of the two roots it is. -/
lemma signed_even (x : Residue) : (if x.isOdd then -x.even else x.even) = x := by
  unfold Residue.even
  cases x.isOdd
  · rfl
  · exact neg_neg x

lemma decode?_littleEndian (a : Group) :
    decode? (littleEndian 32 (code a)) = some (ofAffine a.x a.y) := by
  have hy : Residue.ofNat (code a % signBit) = a.y := by
    rw [code_mod]
    exact Fin.ofNat_val_eq_self a.y
  have hu : a.y * a.y - 1 = a.x * a.x * (d * (a.y * a.y) + 1) := by
    linear_combination a.equation
  have hsign : (code a / signBit % 2 = 1) ↔ a.x.isOdd = true := by
    rw [code_div]
    cases a.x.isOdd <;> decide
  unfold decode?
  dsimp only
  rw [ofLittleEndian_littleEndian (code_lt a), hy,
    Residue.sqrtRatio?_eq (denominator_ne_zero a.y) hu, Option.map_some]
  simp only [hsign, signed_even]

/-- **The encoding of a point is read back as a point equal to it.** -/
theorem Represents.decode?_encode (h : p.Represents a) :
    ∃ q, decode? p.encode = some q ∧ q.Represents a := by
  rw [h.encode_eq]
  exact ⟨ofAffine a.x a.y, decode?_littleEndian a, represents_ofAffine a⟩

end Point

end Attestation.Ed25519
