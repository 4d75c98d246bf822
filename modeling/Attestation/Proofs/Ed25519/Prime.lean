import Attestation.Ed25519.Curve
import Mathlib.Data.List.Prime
import Mathlib.NumberTheory.LucasPrimality
import Mathlib.Tactic.NormNum.Prime

/-!
The order of the field is prime.

A number is prime if some power residue has the full order modulo it; the factors of its
predecessor have to be prime in turn, which makes a short chain of certificates.
-/

namespace Attestation.Ed25519

/-- `a ^ k % m`, by squaring. -/
def powMod (m a k : ℕ) : ℕ :=
  if k = 0 then 1 % m
  else
    let h := powMod m a (k / 2)
    if k % 2 = 0 then h * h % m else h * h % m * a % m
termination_by k

lemma powMod_eq (m a k : ℕ) : powMod m a k = a ^ k % m := by
  induction k using Nat.strong_induction_on with
  | _ k ih =>
    rw [powMod]
    split
    · rename_i h0
      rw [h0, pow_zero]
    · rename_i h0
      have hhalf := ih (k / 2) (by omega)
      have hsq : powMod m a (k / 2) * powMod m a (k / 2) % m = a ^ (2 * (k / 2)) % m := by
        rw [hhalf, ← Nat.mul_mod, ← pow_add, two_mul]
      dsimp only
      split
      · rw [hsq, show 2 * (k / 2) = k by omega]
      · rw [hsq, Nat.mod_mul_mod, ← pow_succ, show 2 * (k / 2) + 1 = k by omega]

/-- A number whose predecessor has the given prime factors, and modulo which `a` has full
order. -/
lemma prime_of_factors {n : ℕ} (a : ℕ) (small large : List ℕ) (hsmall : ∀ q ∈ small, q.Prime)
    (hlarge : ∀ q ∈ large, q.Prime) (hprod : (small ++ large).prod = n - 1)
    (hone : powMod n a (n - 1) = 1) (hne : ∀ q ∈ small ++ large, powMod n a ((n - 1) / q) ≠ 1) :
    n.Prime := by
  have hmod (k : ℕ) : (a : ZMod n) ^ k = 1 ↔ powMod n a k = 1 % n := by
    rw [powMod_eq, ← Nat.cast_pow, ← Nat.cast_one, ZMod.natCast_eq_natCast_iff']
  have h1 : 1 % n = 1 := by
    refine Nat.one_mod_eq_one.2 ?_
    rintro rfl
    rw [powMod_eq, Nat.mod_one] at hone
    omega
  refine lucas_primality n a ((hmod _).2 (by rw [hone, h1])) fun q hq hdvd h => ?_
  obtain ⟨r, hr, hqr⟩ := (Prime.dvd_prod_iff hq.prime).1 (hprod ▸ hdvd)
  have hr' : r.Prime := (List.mem_append.1 hr).elim (hsmall r) (hlarge r)
  obtain rfl := (Nat.prime_dvd_prime_iff_eq hq hr').1 hqr
  exact hne q hr (((hmod _).1 h).trans h1)

lemma prime_2773320623 : Nat.Prime 2773320623 :=
  prime_of_factors 5 [2, 2437, 569003] [] (by norm_num) (by simp) (by norm_num)
    (by decide +kernel) (by decide +kernel)

lemma prime_72106336199 : Nat.Prime 72106336199 :=
  prime_of_factors 7 [2, 13] [2773320623] (by norm_num)
    (List.forall_mem_singleton.2 prime_2773320623) (by norm_num)
    (by decide +kernel) (by decide +kernel)

lemma prime_1919519569386763 : Nat.Prime 1919519569386763 :=
  prime_of_factors 2 [2, 3, 7, 19, 47, 47, 127, 8574133] [] (by norm_num) (by simp)
    (by norm_num) (by decide +kernel) (by decide +kernel)

lemma prime_31757755568855353 : Nat.Prime 31757755568855353 :=
  prime_of_factors 10 [2, 2, 2, 3, 31, 107, 223, 4153, 430751] [] (by norm_num) (by simp)
    (by norm_num) (by decide +kernel) (by decide +kernel)

lemma prime_75445702479781427272750846543864801 :
    Nat.Prime 75445702479781427272750846543864801 :=
  prime_of_factors 7 [2, 2, 2, 2, 2, 3, 3, 5, 5, 75707] [72106336199, 1919519569386763]
    (by norm_num)
    (List.forall_mem_cons.2 ⟨prime_72106336199,
      List.forall_mem_singleton.2 prime_1919519569386763⟩)
    (by norm_num) (by decide +kernel) (by decide +kernel)

lemma prime_74058212732561358302231226437062788676166966415465897661863160754340907 :
    Nat.Prime 74058212732561358302231226437062788676166966415465897661863160754340907 :=
  prime_of_factors 2 [2, 3, 353, 57467, 132049, 1923133]
    [31757755568855353, 75445702479781427272750846543864801] (by norm_num)
    (List.forall_mem_cons.2 ⟨prime_31757755568855353,
      List.forall_mem_singleton.2 prime_75445702479781427272750846543864801⟩)
    (by norm_num) (by decide +kernel) (by decide +kernel)

/-- **The order of the field is prime.** -/
theorem prime_prime : prime.Prime :=
  prime_of_factors 2 [2, 2, 3, 65147]
    [74058212732561358302231226437062788676166966415465897661863160754340907] (by norm_num)
    (List.forall_mem_singleton.2
      prime_74058212732561358302231226437062788676166966415465897661863160754340907)
    (by norm_num) (by decide +kernel) (by decide +kernel)

end Attestation.Ed25519
