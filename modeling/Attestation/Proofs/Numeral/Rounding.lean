import Attestation.Numeral.Double
import Mathlib.Data.Int.Log
import Mathlib.Data.Rat.Floor
import Mathlib.Tactic.FieldSimp
import Mathlib.Tactic.Linarith
import Mathlib.Tactic.NormNum
import Mathlib.Tactic.Positivity
import Mathlib.Tactic.Ring

/-!
Rounding to binary64 looks at nothing but the value that is rounded, and leaves the value of a
finite magnitude as it is. The bounds that spare the computation of large powers of ten decide
nothing that rounding would not decide.
-/

namespace Attestation.Numeral.Double

/-- A power with a whole exponent, as the quotient of two natural powers. -/
lemma zpow_eq_div (b : ℕ) (hb : 0 < b) (e : ℤ) :
    (b : ℚ) ^ e = (b ^ e.toNat : ℕ) / (b ^ (-e).toNat : ℕ) := by
  have hb' : (b : ℚ) ≠ 0 := by positivity
  rcases le_total 0 e with he | he
  · obtain ⟨n, rfl⟩ := Int.eq_ofNat_of_zero_le he
    have hn : (-(n : ℤ)).toNat = 0 := by omega
    simp [hn]
  · obtain ⟨n, hn⟩ := Int.eq_ofNat_of_zero_le (Int.neg_nonneg.2 he)
    have he' : e = -(n : ℤ) := by omega
    subst he'
    have hn' : (-(n : ℤ)).toNat = 0 := by omega
    simp [hn', zpow_neg]

lemma log2_bounds {n : ℕ} (hn : 0 < n) :
    (2 : ℚ) ^ (n.log2 : ℤ) ≤ n ∧ (n : ℚ) < 2 ^ ((n.log2 : ℤ) + 1) := by
  constructor
  · exact_mod_cast Nat.log2_self_le hn.ne'
  · exact_mod_cast Nat.lt_log2_self (n := n)

/-- The floor of the logarithm is the one of the quotient. -/
lemma floorLog_eq_log {num den : ℕ} (hn : 0 < num) (hd : 0 < den) :
    floorLog num den = Int.log 2 ((num : ℚ) / den) := by
  obtain ⟨hn1, hn2⟩ := log2_bounds hn
  obtain ⟨hd1, hd2⟩ := log2_bounds hd
  have hden : (0 : ℚ) < den := by exact_mod_cast hd
  have hq : (0 : ℚ) < (num : ℚ) / den := div_pos (by exact_mod_cast hn) hden
  set k : ℤ := (num.log2 : ℤ) - den.log2 with hk
  have hlt : (num : ℚ) / den < ((2 : ℕ) : ℚ) ^ (k + 1) := by
    rw [div_lt_iff₀ hden]
    calc (num : ℚ) < 2 ^ ((num.log2 : ℤ) + 1) := hn2
      _ = (2 : ℚ) ^ (k + 1) * 2 ^ (den.log2 : ℤ) := by
        rw [← zpow_add₀ two_ne_zero, hk]; congr 1; ring
      _ ≤ ((2 : ℕ) : ℚ) ^ (k + 1) * den := by
        push_cast; exact mul_le_mul_of_nonneg_left hd1 (zpow_nonneg two_pos.le _)
  have hgt : ((2 : ℕ) : ℚ) ^ (k - 1) ≤ (num : ℚ) / den := by
    rw [le_div_iff₀ hden]
    calc ((2 : ℕ) : ℚ) ^ (k - 1) * den ≤ (2 : ℚ) ^ (k - 1) * 2 ^ ((den.log2 : ℤ) + 1) := by
          push_cast; exact mul_le_mul_of_nonneg_left hd2.le (zpow_nonneg two_pos.le _)
      _ = 2 ^ (num.log2 : ℤ) := by rw [← zpow_add₀ two_ne_zero, hk]; congr 1; ring
      _ ≤ num := hn1
  have hcond : den * Nat.pow 2 k.toNat ≤ num * Nat.pow 2 (-k).toNat ↔
      ((2 : ℕ) : ℚ) ^ k ≤ (num : ℚ) / den := by
    have hp : (0 : ℚ) < ((2 ^ (-k).toNat : ℕ) : ℚ) := by positivity
    rw [zpow_eq_div 2 two_pos k, div_le_div_iff₀ hp hden]
    simp only [Nat.pow_eq]
    rw [mul_comm den]
    exact_mod_cast Iff.rfl
  unfold floorLog
  simp only [← hk, hcond]
  split
  · rename_i h
    have h1 := (Int.zpow_le_iff_le_log one_lt_two hq).1 h
    have h2 := (Int.lt_zpow_iff_log_lt one_lt_two hq).1 hlt
    omega
  · rename_i h
    have h1 := (Int.zpow_le_iff_le_log one_lt_two hq).1 hgt
    have h2 := (Int.lt_zpow_iff_log_lt one_lt_two hq).1 (lt_of_not_ge h)
    omega

lemma le_floorLog_iff {num den : ℕ} (hn : 0 < num) (hd : 0 < den) (k : ℤ) :
    k ≤ floorLog num den ↔ den * 2 ^ k.toNat ≤ num * 2 ^ (-k).toNat := by
  have hden : (0 : ℚ) < den := by exact_mod_cast hd
  have hp : (0 : ℚ) < ((2 ^ (-k).toNat : ℕ) : ℚ) := by positivity
  have hq : (0 : ℚ) < (num : ℚ) / den := div_pos (by exact_mod_cast hn) hden
  rw [floorLog_eq_log hn hd, ← Int.zpow_le_iff_le_log one_lt_two hq, zpow_eq_div 2 two_pos k,
    div_le_div_iff₀ hp hden, mul_comm den]
  exact_mod_cast Iff.rfl

lemma natCast_le_floorLog_iff {num den : ℕ} (hn : 0 < num) (hd : 0 < den) (k : ℕ) :
    (k : ℤ) ≤ floorLog num den ↔ den * 2 ^ k ≤ num := by
  have hk : (-(k : ℤ)).toNat = 0 := by omega
  rw [le_floorLog_iff hn hd, Int.toNat_natCast, hk, pow_zero, mul_one]

lemma neg_le_floorLog_iff {num den : ℕ} (hn : 0 < num) (hd : 0 < den) (k : ℕ) :
    -(k : ℤ) ≤ floorLog num den ↔ den ≤ num * 2 ^ k := by
  have hk : (-(k : ℤ)).toNat = 0 := by omega
  rw [le_floorLog_iff hn hd, hk, pow_zero, mul_one, neg_neg, Int.toNat_natCast]

/-! ### Division -/

lemma roundDiv_mul_left {c : ℕ} (hc : 0 < c) (a b : ℕ) :
    roundDiv (c * a) (c * b) = roundDiv a b := by
  unfold roundDiv
  have h1 : 2 * (c * a % (c * b)) = c * (2 * (a % b)) := by rw [Nat.mul_mod_mul_left]; ring
  simp only [Nat.mul_div_mul_left a b hc, h1, Nat.mul_lt_mul_left hc]

/-- The rounded quotient of two pairs of numbers in the same proportion. -/
lemma roundDiv_congr {a b c d : ℕ} (hb : 0 < b) (hd : 0 < d) (h : a * d = c * b) :
    roundDiv a b = roundDiv c d := by
  calc roundDiv a b = roundDiv (d * a) (d * b) := (roundDiv_mul_left hd a b).symm
    _ = roundDiv (b * c) (b * d) := by rw [mul_comm d a, h, mul_comm c b, mul_comm d b]
    _ = roundDiv c d := roundDiv_mul_left hb c d

lemma div_le_roundDiv (a b : ℕ) : a / b ≤ roundDiv a b := by
  unfold roundDiv
  dsimp only
  split_ifs <;> omega

lemma roundDiv_mul_self {k b : ℕ} (hb : 0 < b) : roundDiv (k * b) b = k := by
  unfold roundDiv
  simp [hb]

lemma roundDiv_eq_zero {a b : ℕ} (h : 2 * a < b) : roundDiv a b = 0 := by
  unfold roundDiv
  have ha : a < b := by omega
  simp [Nat.div_eq_of_lt ha, Nat.mod_eq_of_lt ha, h]

/-! ### Ratios -/

/-- **Rounding depends on the value alone.** -/
theorem roundRatio_congr {a b c d : ℕ} (hb : 0 < b) (hd : 0 < d) (h : a * d = c * b) :
    roundRatio a b = roundRatio c d := by
  unfold roundRatio
  rcases Nat.eq_zero_or_pos a with rfl | ha
  · have hc : c = 0 := by
      rw [Nat.zero_mul] at h
      exact (Nat.mul_eq_zero.1 h.symm).resolve_right hb.ne'
    simp [hc]
  · have hc : 0 < c := by
      refine Nat.pos_of_ne_zero ?_
      rintro rfl
      rw [Nat.zero_mul] at h
      exact (Nat.mul_pos ha hd).ne' h
    have hlog : floorLog a b = floorLog c d := by
      rw [floorLog_eq_log ha hb, floorLog_eq_log hc hd]
      congr 1
      rw [div_eq_div_iff (by positivity) (by positivity)]
      exact_mod_cast h
    have hdiv (k l : ℕ) : roundDiv (a * 2 ^ k) (b * 2 ^ l) = roundDiv (c * 2 ^ k) (d * 2 ^ l) := by
      refine roundDiv_congr (Nat.mul_pos hb (Nat.two_pow_pos _))
        (Nat.mul_pos hd (Nat.two_pow_pos _)) ?_
      calc a * 2 ^ k * (d * 2 ^ l) = a * d * (2 ^ k * 2 ^ l) := by ring
        _ = c * b * (2 ^ k * 2 ^ l) := by rw [h]
        _ = c * 2 ^ k * (b * 2 ^ l) := by ring
    rw [if_neg ha.ne', if_neg hc.ne', hlog]
    simp only [Nat.pow_eq, hdiv]

lemma two_pow_1024_le : 2 ^ 1024 ≤ 10 ^ 309 := by decide +kernel

lemma two_pow_1075_le : 2 ^ 1075 ≤ 10 ^ 324 := by decide +kernel

lemma roundRatio_eq_infMagnitude {num den : ℕ} (hd : 0 < den) (h : den * 2 ^ 1024 ≤ num) :
    roundRatio num den = infMagnitude := by
  have hn : 0 < num := lt_of_lt_of_le (Nat.mul_pos hd (Nat.two_pow_pos _)) h
  have hlog := (natCast_le_floorLog_iff hn hd 1024).2 h
  obtain ⟨k, hk⟩ : ∃ k : ℕ, floorLog num den = (52 + k : ℕ) :=
    ⟨(floorLog num den - 52).toNat, by omega⟩
  have hpow : 2 ^ 52 * (den * 2 ^ k) ≤ num := by
    calc 2 ^ 52 * (den * 2 ^ k) = den * 2 ^ (52 + k) := by rw [pow_add]; ac_rfl
      _ ≤ num := (natCast_le_floorLog_iff hn hd _).1 hk.ge
  have hq : 2 ^ 52 ≤ roundDiv num (den * 2 ^ k) :=
    ((Nat.le_div_iff_mul_le (Nat.mul_pos hd (Nat.two_pow_pos _))).2 hpow).trans
      (div_le_roundDiv _ _)
  have he : max (floorLog num den - 52) (-1074) = (k : ℤ) := by omega
  have hk' : (-(k : ℤ)).toNat = 0 := by omega
  unfold roundRatio
  simp only [if_neg hn.ne', he, hk', Int.toNat_natCast, Nat.pow_eq, pow_zero, mul_one]
  refine min_eq_right ?_
  unfold infMagnitude
  omega

lemma roundRatio_eq_zero {num den : ℕ} (h : num * 2 ^ 1075 < den) : roundRatio num den = 0 := by
  unfold roundRatio
  split
  · rfl
  · rename_i hn
    have hd : 0 < den := by omega
    have hlog := (neg_le_floorLog_iff (Nat.pos_of_ne_zero hn) hd 1075).not.2 (not_le.2 h)
    have he : max (floorLog num den - 52) (-1074) = -1074 := by omega
    have hq : roundDiv (num * 2 ^ 1074) den = 0 := by
      refine roundDiv_eq_zero ?_
      calc 2 * (num * 2 ^ 1074) = num * (2 * 2 ^ 1074) := Nat.mul_left_comm _ _ _
        _ = num * 2 ^ 1075 := by rw [← pow_succ']
        _ < den := h
    have hk : (-(-1074 : ℤ)).toNat = 1074 ∧ (-1074 : ℤ).toNat = 0 := by omega
    simp only [he, hk, Nat.pow_eq, pow_zero, mul_one, hq]
    rfl

/-! ### Finite magnitudes -/

lemma significand_pos {m : ℕ} (hm : 0 < m) : 0 < significand m := by
  unfold significand
  split <;> omega

lemma le_floorLog_scaled_iff {c : ℕ} (hc : 0 < c) (s : ℤ) (k : ℕ) :
    s + k ≤ floorLog (c * 2 ^ s.toNat) (2 ^ (-s).toNat) ↔ 2 ^ k ≤ c := by
  rw [le_floorLog_iff (Nat.mul_pos hc (Nat.two_pow_pos _)) (Nat.two_pow_pos _)]
  have hexp : (-s).toNat + (s + k).toNat = k + (s.toNat + (-(s + k)).toNat) := by omega
  rw [← pow_add, hexp, pow_add 2 k, mul_assoc, ← pow_add 2 s.toNat]
  exact Nat.mul_le_mul_right_iff (Nat.two_pow_pos _)

/-- Rounding keeps the power of two of a finite magnitude. -/
lemma shift_eq {m : ℕ} (hm : 0 < m) :
    max (floorLog (significand m * 2 ^ (shift m).toNat) (2 ^ (-shift m).toNat) - 52) (-1074)
      = shift m := by
  have hle := le_floorLog_scaled_iff (significand_pos hm) (shift m)
  have h52 := hle 52
  have h53 := hle 53
  generalize floorLog (significand m * 2 ^ (shift m).toNat) (2 ^ (-shift m).toNat) = k at *
  unfold significand shift at *
  split at h52 <;> simp_all <;> omega

/-- **A finite magnitude rounds to itself.** -/
theorem roundRatio_value {m : ℕ} (hm : m < infMagnitude) :
    roundRatio (significand m * 2 ^ (shift m).toNat) (2 ^ (-shift m).toNat) = m := by
  rcases Nat.eq_zero_or_pos m with rfl | hm0
  · decide
  · have hn : significand m * 2 ^ (shift m).toNat ≠ 0 :=
      (Nat.mul_pos (significand_pos hm0) (Nat.two_pow_pos _)).ne'
    have hq : roundDiv (significand m * 2 ^ (shift m).toNat * 2 ^ (-shift m).toNat)
        (2 ^ (-shift m).toNat * 2 ^ (shift m).toNat) = significand m := by
      rw [mul_assoc, Nat.mul_comm (2 ^ (-shift m).toNat)]
      exact roundDiv_mul_self (Nat.mul_pos (Nat.two_pow_pos _) (Nat.two_pow_pos _))
    unfold roundRatio
    simp only [if_neg hn, Nat.pow_eq, shift_eq hm0, hq]
    unfold significand shift infMagnitude at *
    split <;> omega

/-! ### Decimals -/

lemma pow_log2_div_le {n : ℕ} (hn : n ≠ 0) : 10 ^ (n.log2 / 4) ≤ n := by
  calc 10 ^ (n.log2 / 4) ≤ 16 ^ (n.log2 / 4) := Nat.pow_le_pow_left (by omega) _
    _ = 2 ^ (4 * (n.log2 / 4)) := by rw [pow_mul]; rfl
    _ ≤ 2 ^ n.log2 := Nat.pow_le_pow_right two_pos (by omega)
    _ ≤ n := Nat.log2_self_le hn

lemma lt_pow_log2 (n : ℕ) : n < 10 ^ (n.log2 + 1) := by
  calc n < 2 ^ (n.log2 + 1) := Nat.lt_log2_self
    _ ≤ 10 ^ (n.log2 + 1) := Nat.pow_le_pow_left (by omega) _

/-- **The bounds on the exponent decide nothing.** -/
theorem roundDecimal_eq (digits : ℕ) (e : ℤ) :
    roundDecimal digits e = roundRatio (digits * 10 ^ e.toNat) (10 ^ (-e).toNat) := by
  unfold roundDecimal
  simp only [Nat.pow_eq]
  split_ifs with h0 htop hbound
  · simp [roundRatio, h0]
  · refine (roundRatio_eq_infMagnitude (by positivity) ?_).symm
    calc 10 ^ (-e).toNat * 2 ^ 1024 ≤ 10 ^ (-e).toNat * 10 ^ 309 :=
          Nat.mul_le_mul_left _ two_pow_1024_le
      _ = 10 ^ ((-e).toNat + 309) := (pow_add _ _ _).symm
      _ ≤ 10 ^ (digits.log2 / 4 + e.toNat) := Nat.pow_le_pow_right (by omega) (by omega)
      _ = 10 ^ (digits.log2 / 4) * 10 ^ e.toNat := pow_add _ _ _
      _ ≤ digits * 10 ^ e.toNat := Nat.mul_le_mul_right _ (pow_log2_div_le h0)
  · refine (roundRatio_eq_zero ?_).symm
    calc digits * 10 ^ e.toNat * 2 ^ 1075
        < 10 ^ (digits.log2 + 1) * 10 ^ e.toNat * 2 ^ 1075 := by
          gcongr; exact lt_pow_log2 digits
      _ ≤ 10 ^ (digits.log2 + 1) * 10 ^ e.toNat * 10 ^ 324 :=
          Nat.mul_le_mul_left _ two_pow_1075_le
      _ = 10 ^ (digits.log2 + 1 + e.toNat + 324) := by
          rw [pow_add 10 (digits.log2 + 1 + e.toNat), pow_add 10 (digits.log2 + 1)]
      _ ≤ 10 ^ (-e).toNat := Nat.pow_le_pow_right (by omega) (by omega)
  · rfl

/-- Zeros moved from the exponent into the digits. -/
lemma roundDecimal_shift (digits k : ℕ) (e : ℤ) :
    roundDecimal (digits * 10 ^ k) (e - k) = roundDecimal digits e := by
  rw [roundDecimal_eq, roundDecimal_eq]
  refine roundRatio_congr (by positivity) (by positivity) ?_
  have hexp : k + (e - k).toNat + (-e).toNat = e.toNat + (-(e - k)).toNat := by omega
  calc digits * 10 ^ k * 10 ^ (e - k).toNat * 10 ^ (-e).toNat
      = digits * 10 ^ (k + (e - k).toNat + (-e).toNat) := by rw [pow_add, pow_add]; ring
    _ = digits * 10 ^ e.toNat * 10 ^ (-(e - k)).toNat := by rw [hexp, pow_add]; ring

/-- A decimal that rounds to a finite magnitude other than zero is between the powers of ten
around the range of binary64. -/
lemma bounds_of_roundDecimal {digits n : ℕ} {e : ℤ} (hn : digits < 10 ^ n)
    (h0 : roundDecimal digits e ≠ 0) (hinf : roundDecimal digits e ≠ infMagnitude) :
    -324 < e + n ∧ ∀ l : ℕ, 10 ^ l ≤ digits → e + l < 309 := by
  rw [roundDecimal_eq] at h0 hinf
  have hlow : 10 ^ (-e).toNat ≤ digits * 10 ^ e.toNat * 2 ^ 1075 :=
    le_of_not_gt fun h => h0 (roundRatio_eq_zero h)
  have hhigh : digits * 10 ^ e.toNat < 10 ^ (-e).toNat * 2 ^ 1024 :=
    lt_of_not_ge fun h => hinf (roundRatio_eq_infMagnitude (by positivity) h)
  constructor
  · have : 10 ^ (-e).toNat < 10 ^ (n + e.toNat + 324) := by
      calc 10 ^ (-e).toNat ≤ digits * 10 ^ e.toNat * 2 ^ 1075 := hlow
        _ < 10 ^ n * 10 ^ e.toNat * 2 ^ 1075 := by gcongr
        _ ≤ 10 ^ n * 10 ^ e.toNat * 10 ^ 324 := Nat.mul_le_mul_left _ two_pow_1075_le
        _ = 10 ^ (n + e.toNat + 324) := by rw [pow_add, pow_add]
    have := (Nat.pow_lt_pow_iff_right (by omega)).1 this
    omega
  · intro l hl
    have : 10 ^ (l + e.toNat) < 10 ^ ((-e).toNat + 309) := by
      calc 10 ^ (l + e.toNat) = 10 ^ l * 10 ^ e.toNat := pow_add _ _ _
        _ ≤ digits * 10 ^ e.toNat := Nat.mul_le_mul_right _ hl
        _ < 10 ^ (-e).toNat * 2 ^ 1024 := hhigh
        _ ≤ 10 ^ (-e).toNat * 10 ^ 309 := Nat.mul_le_mul_left _ two_pow_1024_le
        _ = 10 ^ ((-e).toNat + 309) := (pow_add _ _ _).symm
    have := (Nat.pow_lt_pow_iff_right (by omega)).1 this
    omega

end Attestation.Numeral.Double
