import Attestation.Json.Parser
import Attestation.Json.Printer
import Attestation.Proofs.Json.Printer

/-!
Number literals.

How far a literal reaches does not depend on what comes after it, as long as that is a comma, a
closing mark or white space. So a number that is read back from its text alone is read back
wherever the text stands, and whole numbers are: no digits are left over and none leads in vain.
-/

namespace Attestation.Json

/-- The comma, the closing marks and white space. -/
def closers : List Char := [',', ']', '\x7d', ' ', '\t', '\n', '\r']

/-- What may follow a value: nothing, a comma, a closing mark or white space. -/
def Closes (r : List Char) : Prop := ∀ c ∈ r.head?, c ∈ closers

lemma closes_nil : Closes [] := by simp [Closes]

lemma closes_cons {c : Char} (hc : c ∈ closers) (r : List Char) : Closes (c :: r) := by
  simpa [Closes] using hc

/-- What holds of the comma, the closing marks and white space holds of what follows a value. -/
lemma Closes.head {P : Char → Prop} [DecidablePred P] {r : List Char} (hr : Closes r)
    (h : closers.all (P ·) = true) : ∀ c ∈ r.head?, P c :=
  fun c hc => of_decide_eq_true (List.all_eq_true.1 h c (hr c hc))

/-- Puts `r` back behind what a reader has left over. -/
def andThen {α : Type} (r : List Char) (x : Option (α × List Char)) : Option (α × List Char) :=
  x.map fun (a, t) => (a, t ++ r)

@[simp] lemma andThen_some {α : Type} (r : List Char) (a : α) (t : List Char) :
    andThen r (some (a, t)) = some (a, t ++ r) := rfl

@[simp] lemma andThen_none {α : Type} (r : List Char) : andThen (α := α) r none = none := rfl

variable {r : List Char}

lemma takeDigits_append (s : List Char) (hr : Closes r) :
    takeDigits (s ++ r) = andThen r (takeDigits s) := by
  have hdigit : ∀ c ∈ r.head?, c.isDigit = false := hr.head (by decide)
  obtain ⟨h1, h2⟩ := Text.takeWhile_append_stop s hdigit
  unfold takeDigits
  simp only [h1, h2]
  split <;> rfl

lemma takeWhole_append (s : List Char) (hr : Closes r) :
    takeWhole (s ++ r) = andThen r (takeWhole s) := by
  unfold takeWhole
  rw [takeDigits_append s hr]
  rcases takeDigits s with _ | ⟨ds, t⟩
  · rfl
  · simp only [andThen_some]
    split <;> split <;> simp_all

lemma takePlaces_append (s : List Char) (hr : Closes r) :
    takePlaces (s ++ r) = andThen r (takePlaces s) := by
  have hpoint : ∀ c ∈ r.head?, c ≠ '.' := hr.head (by decide)
  cases s with
  | nil =>
    cases r with
    | nil => rfl
    | cons c r =>
      rw [List.nil_append, takePlaces.eq_2 _ (by simp [hpoint c rfl])]
      rfl
  | cons c s =>
    by_cases hc : c = '.'
    · subst hc
      exact takeDigits_append s hr
    · rw [List.cons_append, takePlaces.eq_2 _ (by simp [hc]), takePlaces.eq_2 _ (by simp [hc])]
      rfl

/-- Reads the digits of an exponent. -/
def exponentDigits (sign : ℤ) (s : List Char) : Option (Option ℤ × List Char) :=
  (takeDigits s).map fun (ds, t) => (some (sign * Numeral.natOfDigits 0 ds), t)

lemma exponentDigits_append (sign : ℤ) (s : List Char) (hr : Closes r) :
    exponentDigits sign (s ++ r) = andThen r (exponentDigits sign s) := by
  rw [exponentDigits, takeDigits_append s hr, exponentDigits]
  cases takeDigits s <;> rfl

section Exponent

variable {m : Char} (hm : m = 'e' ∨ m = 'E') {s : List Char}

include hm

lemma takeExponent_minus : takeExponent (m :: '-' :: s) = exponentDigits (-1) s := by
  simp [takeExponent, hm, exponentDigits]

lemma takeExponent_plus : takeExponent (m :: '+' :: s) = exponentDigits 1 s := by
  simp [takeExponent, hm, exponentDigits]

lemma takeExponent_unsigned (h : ∀ c ∈ s.head?, c ≠ '-' ∧ c ≠ '+') :
    takeExponent (m :: s) = exponentDigits 1 s := by
  cases s with
  | nil => simp [takeExponent, hm, exponentDigits]
  | cons c s =>
    obtain ⟨h1, h2⟩ := h c rfl
    simp [takeExponent, hm, exponentDigits, h1, h2]

end Exponent

lemma takeExponent_unmarked {s : List Char} (h : ∀ c ∈ s.head?, c ≠ 'e' ∧ c ≠ 'E') :
    takeExponent s = some (none, s) := by
  cases s with
  | nil => rfl
  | cons c s =>
    obtain ⟨h1, h2⟩ := h c rfl
    simp [takeExponent, h1, h2]

lemma takeExponent_append (s : List Char) (hr : Closes r) :
    takeExponent (s ++ r) = andThen r (takeExponent s) := by
  have hsign : ∀ c ∈ r.head?, c ≠ '-' ∧ c ≠ '+' := hr.head (by decide)
  have hmark : ∀ c ∈ r.head?, c ≠ 'e' ∧ c ≠ 'E' := hr.head (by decide)
  cases s with
  | nil => exact takeExponent_unmarked hmark
  | cons m s =>
    by_cases hm : m = 'e' ∨ m = 'E'
    · match s with
      | [] =>
        rw [List.singleton_append, takeExponent_unsigned hm hsign,
          takeExponent_unsigned hm (by simp)]
        exact exponentDigits_append 1 [] hr
      | c :: s =>
        by_cases h1 : c = '-'
        · subst h1
          rw [List.cons_append, List.cons_append, takeExponent_minus hm, takeExponent_minus hm]
          exact exponentDigits_append (-1) s hr
        by_cases h2 : c = '+'
        · subst h2
          rw [List.cons_append, List.cons_append, takeExponent_plus hm, takeExponent_plus hm]
          exact exponentDigits_append 1 s hr
        · rw [List.cons_append, takeExponent_unsigned hm (by simp [h1, h2]),
            takeExponent_unsigned hm (by simp [h1, h2])]
          exact exponentDigits_append 1 (c :: s) hr
    · have hm' := not_or.1 hm
      rw [takeExponent_unmarked (s := m :: s) (by simpa using hm'), List.cons_append,
        takeExponent_unmarked (by simpa using hm')]
      rfl

/-- Reads a literal after its sign. -/
def takeUnsigned (negative : Bool) (s : List Char) : Option (Literal × List Char) := do
  let (whole, s) ← takeWhole s
  let (places, s) ← takePlaces s
  let (exponent, s) ← takeExponent s
  return (⟨negative, whole, places, exponent⟩, s)

lemma takeLiteral_minus (s : List Char) : takeLiteral ('-' :: s) = takeUnsigned true s := rfl

lemma takeLiteral_unsigned {s : List Char} (h : ∀ c ∈ s.head?, c ≠ '-') :
    takeLiteral s = takeUnsigned false s := by
  cases s with
  | nil => rfl
  | cons c s =>
    have hc := h c rfl
    simp [takeLiteral, takeUnsigned, hc]

lemma takeUnsigned_append (negative : Bool) (s : List Char) (hr : Closes r) :
    takeUnsigned negative (s ++ r) = andThen r (takeUnsigned negative s) := by
  unfold takeUnsigned
  rw [takeWhole_append s hr]
  rcases takeWhole s with _ | ⟨whole, s⟩
  · rfl
  simp only [andThen_some, Option.bind_eq_bind, Option.bind_some]
  rw [takePlaces_append s hr]
  rcases takePlaces s with _ | ⟨places, s⟩
  · rfl
  simp only [andThen_some, Option.bind_some]
  rw [takeExponent_append s hr]
  rcases takeExponent s with _ | ⟨exponent, s⟩ <;> rfl

lemma takeLiteral_append (s : List Char) (hr : Closes r) :
    takeLiteral (s ++ r) = andThen r (takeLiteral s) := by
  have hsign : ∀ c ∈ r.head?, c ≠ '-' := hr.head (by decide)
  match s with
  | [] =>
    rw [List.nil_append, takeLiteral_unsigned hsign, takeLiteral_unsigned (by simp)]
    exact takeUnsigned_append false [] hr
  | c :: s =>
    by_cases hc : c = '-'
    · subst hc
      rw [List.cons_append, takeLiteral_minus, takeLiteral_minus]
      exact takeUnsigned_append true s hr
    · rw [takeLiteral_unsigned (by simpa using hc), takeLiteral_unsigned (by simpa using hc)]
      exact takeUnsigned_append false (c :: s) hr

/-! ### What is left over -/

lemma takeDigits_suffix {s ds t : List Char} (h : takeDigits s = some (ds, t)) : t <:+ s := by
  unfold takeDigits at h
  simp only at h
  split at h
  · cases h
  · cases h
    exact List.dropWhile_suffix _

lemma takeWhole_suffix {s ds t : List Char} (h : takeWhole s = some (ds, t)) : t <:+ s := by
  unfold takeWhole at h
  split at h
  · cases h
  · exact takeDigits_suffix h

lemma takePlaces_suffix {s ds t : List Char} (h : takePlaces s = some (ds, t)) : t <:+ s := by
  unfold takePlaces at h
  split at h
  · exact (takeDigits_suffix h).trans (List.suffix_cons _ _)
  · cases h
    exact List.suffix_rfl

lemma exponentDigits_suffix {sign : ℤ} {s t : List Char} {e : Option ℤ}
    (h : exponentDigits sign s = some (e, t)) : t <:+ s := by
  obtain ⟨⟨ds, t'⟩, hds, heq⟩ := Option.map_eq_some_iff.1 h
  cases heq
  exact takeDigits_suffix hds

lemma takeExponent_suffix {s t : List Char} {e : Option ℤ} (h : takeExponent s = some (e, t)) :
    t <:+ s := by
  match s with
  | [] =>
    cases h
    exact List.suffix_rfl
  | m :: s =>
    by_cases hm : m = 'e' ∨ m = 'E'
    · refine List.IsSuffix.trans ?_ (List.suffix_cons m s)
      by_cases h1 : s.head? = some '-'
      · obtain ⟨s, rfl⟩ := List.head?_eq_some_iff.1 h1
        rw [takeExponent_minus hm] at h
        exact (exponentDigits_suffix h).trans (List.suffix_cons _ _)
      by_cases h2 : s.head? = some '+'
      · obtain ⟨s, rfl⟩ := List.head?_eq_some_iff.1 h2
        rw [takeExponent_plus hm] at h
        exact (exponentDigits_suffix h).trans (List.suffix_cons _ _)
      · rw [takeExponent_unsigned hm fun c hc => ⟨?_, ?_⟩] at h
        · exact exponentDigits_suffix h
        · rintro rfl
          exact h1 hc
        · rintro rfl
          exact h2 hc
    · rw [takeExponent_unmarked (by simpa using not_or.1 hm)] at h
      cases h
      exact List.suffix_rfl

lemma takeUnsigned_suffix {negative : Bool} {s t : List Char} {l : Literal}
    (h : takeUnsigned negative s = some (l, t)) : t <:+ s := by
  simp only [takeUnsigned, Option.bind_eq_bind, Option.bind_eq_some_iff] at h
  obtain ⟨⟨whole, s1⟩, h1, ⟨places, s2⟩, h2, ⟨e, s3⟩, h3, heq⟩ := h
  cases heq
  exact (takeExponent_suffix h3).trans ((takePlaces_suffix h2).trans (takeWhole_suffix h1))

/-- What a literal leaves over is the end of the text. -/
lemma takeLiteral_suffix {s t : List Char} {l : Literal} (h : takeLiteral s = some (l, t)) :
    t <:+ s := by
  by_cases hs : s.head? = some '-'
  · obtain ⟨s, rfl⟩ := List.head?_eq_some_iff.1 hs
    exact (takeUnsigned_suffix h).trans (List.suffix_cons _ _)
  · rw [takeLiteral_unsigned] at h
    · exact takeUnsigned_suffix h
    · rintro c hc rfl
      exact hs hc

/-! ### Whole numbers -/

lemma head?_toDigits_ne {n : ℕ} (hn : 0 < n) : (Nat.toDigits 10 n).head? ≠ some '0' := by
  induction n using Nat.strong_induction_on with
  | _ n ih =>
    by_cases h10 : n < 10
    · have hdigit : ∀ d < 10, 0 < d → Nat.digitChar d ≠ '0' := by decide
      simpa [Nat.toDigits_of_lt_base h10] using hdigit n h10 hn
    · rw [Nat.toDigits_of_base_le (by omega) (by omega), List.head?_append]
      have hne := ih (n / 10) (by omega) (by omega)
      obtain ⟨c, t, ht⟩ := List.exists_cons_of_ne_nil (Nat.toDigits_ne_nil (b := 10) (n := n / 10))
      rw [ht] at hne ⊢
      simpa using hne

lemma takeWhole_toDigits (n : ℕ) :
    takeWhole (Nat.toDigits 10 n) = some (Nat.toDigits 10 n, []) := by
  obtain ⟨h1, h2⟩ := Text.takeWhile_run (t := []) (Numeral.all_isDigit_toDigits n) (by simp)
  have htake : takeDigits (Nat.toDigits 10 n) = some (Nat.toDigits 10 n, []) := by
    simp only [List.append_nil] at h1 h2
    simp [takeDigits, h1, h2, Nat.toDigits_ne_nil]
  unfold takeWhole
  rw [htake]
  split
  · rename_i c ds t heq
    rcases Nat.eq_zero_or_pos n with rfl | hn
    · simp at heq
    · exact absurd (by simp_all) (head?_toDigits_ne hn)
  · rfl

lemma le_natOfDigits (n : ℕ) (ds : List Char) : n ≤ Numeral.natOfDigits n ds := by
  induction ds generalizing n with
  | nil => exact le_rfl
  | cons c ds ih => exact le_trans (by omega) (ih (10 * n + (c.toNat - 48)))

/-- Digits of a number of 64 bits are absorbed without a rest. -/
lemma absorb_eq {n : ℕ} {ds : List Char} (h : Numeral.natOfDigits n ds < UInt64.size) :
    absorb n ds = (Numeral.natOfDigits n ds, 0) := by
  induction ds generalizing n with
  | nil => rfl
  | cons c ds ih =>
    have hm : 10 * n + (c.toNat - 48) < UInt64.size := lt_of_le_of_lt (le_natOfDigits _ ds) h
    rw [absorb]
    simp only [hm, if_true]
    exact ih h

lemma takeUnsigned_toDigits (negative : Bool) (n : ℕ) :
    takeUnsigned negative (Nat.toDigits 10 n) =
      some (⟨negative, Nat.toDigits 10 n, [], none⟩, []) := by
  rw [takeUnsigned, takeWhole_toDigits]
  rfl

lemma takeLiteral_natural (n : ℕ) :
    takeLiteral (Nat.toDigits 10 n) = some (⟨false, Nat.toDigits 10 n, [], none⟩, []) := by
  rw [takeLiteral_unsigned, takeUnsigned_toDigits]
  intro c hc
  have hdigit := Numeral.all_isDigit_toDigits n c (List.mem_of_mem_head? hc)
  rintro rfl
  simp at hdigit

lemma absorb_toDigits {n : ℕ} (h : n < UInt64.size) : absorb 0 (Nat.toDigits 10 n) = (n, 0) := by
  rw [absorb_eq] <;> rw [Numeral.natOfDigits_toDigits]
  exact h

/-- **A whole number of 64 bits is read back from its digits.** -/
theorem exists_literal_natural (n : UInt64) : ∃ l,
    takeLiteral (Number.natural n).chars = some (l, []) ∧ l.value? = some (.natural n) := by
  refine ⟨_, takeLiteral_natural n.toNat, ?_⟩
  simp [Literal.value?, absorb_toDigits n.toNat_lt]

/-- The same below zero. -/
theorem exists_literal_negSucc (n : Fin 0x8000000000000000) : ∃ l,
    takeLiteral (Number.negSucc n).chars = some (l, []) ∧ l.value? = some (.negSucc n) := by
  have hn := n.isLt
  have hbound : 0 < n.val + 1 ∧ n.val + 1 ≤ 0x8000000000000000 := by omega
  refine ⟨_, takeUnsigned_toDigits true (n + 1), ?_⟩
  have habs := absorb_toDigits (n := n + 1) (by rw [UInt64.size]; omega)
  simp only [Literal.value?, habs, List.isEmpty_nil, Option.isNone_none, beq_self_eq_true,
    Bool.and_self, Bool.not_true, Bool.false_eq_true, if_true, if_false]
  rw [dif_pos hbound]
  rfl

end Attestation.Json
