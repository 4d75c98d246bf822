import Attestation.Numeral.Reading
import Attestation.Numeral.Shortest
import Attestation.Proofs.Numeral.Rounding
import Attestation.Proofs.Text.Runs

/-!
The decimal text of a finite number reads back to the number, so two numbers never share a text.
-/

namespace Attestation.Numeral

open Double (roundDecimal roundDecimal_shift)

/-! ### Runs of digits -/

lemma natOfDigits_eq (n : ℕ) (ds : List Char) : natOfDigits n ds = Nat.ofDigitChars 10 ds n := rfl

lemma natOfDigits_append (n : ℕ) (ds es : List Char) :
    natOfDigits n (ds ++ es) = natOfDigits (natOfDigits n ds) es := by
  simp [natOfDigits]

lemma natOfDigits_toDigits (n : ℕ) : natOfDigits 0 (Nat.toDigits 10 n) = n := by
  rw [natOfDigits_eq, Nat.ofDigitChars_ten_toDigits]

lemma natOfDigits_zeros (n k : ℕ) : natOfDigits n (Decimal.zeros k) = n * 10 ^ k := by
  rw [natOfDigits_eq, Decimal.zeros, Nat.ofDigitChars_replicate_zero, mul_comm]

lemma all_isDigit_toDigits (n : ℕ) : ∀ c ∈ Nat.toDigits 10 n, c.isDigit = true := fun _ hc =>
  Nat.isDigit_of_mem_toDigits (by omega) (by omega) hc

lemma all_isDigit_zeros (k : ℕ) : ∀ c ∈ Decimal.zeros k, c.isDigit = true := by
  intro c hc
  rw [List.eq_of_mem_replicate hc]
  rfl

/-- The digits of a positive number, between two powers of ten. -/
lemma toDigits_bounds {n : ℕ} (hn : 0 < n) :
    10 ^ ((Nat.toDigits 10 n).length - 1) ≤ n ∧ n < 10 ^ (Nat.toDigits 10 n).length := by
  have hpos := Nat.length_toDigits_pos (b := 10) (n := n)
  refine ⟨?_, (Nat.length_toDigits_le_iff (by omega) hpos).1 le_rfl⟩
  rcases Nat.lt_or_ge 1 (Nat.toDigits 10 n).length with h1 | h1
  · refine le_of_not_gt fun h => ?_
    have := (Nat.length_toDigits_le_iff (by omega) (by omega)).2 h
    omega
  · rw [Nat.sub_eq_zero_of_le h1]
    exact hn

/-- The characters that the text of a number is made of. -/
def isNumberChar (c : Char) : Bool := c.isDigit || c == '-' || c == '+' || c == '.' || c == 'e'

lemma isNumberChar_of_isDigit {c : Char} (h : c.isDigit = true) : isNumberChar c = true := by
  simp [isNumberChar, h]

/-! ### Reading -/

lemma clampExponent_eq {length : ℕ} {e : ℤ} (h1 : -1000 ≤ e) (h2 : e ≤ 1000) :
    clampExponent length e = e := by
  unfold clampExponent
  omega

lemma readUnsigned_point (negative : Bool) {w p t : List Char} (h0 : w ≠ [])
    (hw : ∀ c ∈ w, c.isDigit = true) (hp : ∀ c ∈ p, c.isDigit = true)
    (ht : ∀ c ∈ t.head?, c.isDigit = false) {e : ℤ} (he : readExponent t = some e)
    (h1 : -1000 ≤ e) (h2 : e ≤ 1000) :
    readUnsigned negative (w ++ '.' :: (p ++ t)) =
      some (Double.ofDecimal negative (natOfDigits 0 (w ++ p)) (e - p.length)) := by
  obtain ⟨hw1, hw2⟩ := Text.takeWhile_run (t := '.' :: (p ++ t)) hw (by simp)
  obtain ⟨hp1, hp2⟩ := Text.takeWhile_run hp ht
  unfold readUnsigned
  simp [hw1, hw2, hp1, hp2, h0, he, clampExponent_eq h1 h2]

lemma readUnsigned_whole (negative : Bool) {w t : List Char} (h0 : w ≠ [])
    (hw : ∀ c ∈ w, c.isDigit = true) (ht : ∀ c ∈ t.head?, c.isDigit = false ∧ c ≠ '.') {e : ℤ}
    (he : readExponent t = some e) (h1 : -1000 ≤ e) (h2 : e ≤ 1000) :
    readUnsigned negative (w ++ t) = some (Double.ofDecimal negative (natOfDigits 0 w) e) := by
  obtain ⟨hw1, hw2⟩ := Text.takeWhile_run hw (fun c hc => (ht c hc).1)
  unfold readUnsigned
  simp only [hw1, hw2]
  cases t with
  | nil => simp [h0, he, clampExponent_eq h1 h2]
  | cons c t =>
    have hc := (ht c rfl).2
    simp [h0, he, clampExponent_eq h1 h2, hc]

/-- The exponent part that the printer writes. -/
lemma readExponent_signed (x : ℤ) :
    readExponent ('e' :: (if x < 0 then '-' else '+') :: Nat.toDigits 10 x.natAbs) = some x := by
  have hall : (Nat.toDigits 10 x.natAbs).all Char.isDigit = true :=
    List.all_eq_true.2 (all_isDigit_toDigits _)
  have hne : (Nat.toDigits 10 x.natAbs).isEmpty = false := by
    rw [List.isEmpty_eq_false_iff]
    exact Nat.toDigits_ne_nil
  unfold readExponent
  split_ifs with hx
  · simp [hall, hne, natOfDigits_toDigits]
    rw [abs_of_neg hx, neg_neg]
  · simp [hall, hne, natOfDigits_toDigits]
    exact not_lt.1 hx

/-! ### Printing -/

namespace Decimal

/-- The power of ten that the first digit stands for. -/
def lead (d : Decimal) : ℤ := d.exponent + ((Nat.toDigits 10 d.digits).length : ℤ) - 1

section Forms

variable {ds : List Char} {n : ℕ} {e : ℤ} (negative : Bool)

/-- A whole number and one place. -/
lemma readUnsigned_integral (hall : ∀ c ∈ ds, c.isDigit = true) (hne : ds ≠ [])
    (hval : natOfDigits 0 ds = n) (he : 0 ≤ e) :
    readUnsigned negative (ds ++ zeros e.toNat ++ ['.', '0']) =
      some (Double.ofDecimal negative n e) := by
  have hws : ∀ c ∈ ds ++ zeros e.toNat, c.isDigit = true :=
    List.forall_mem_append.2 ⟨hall, all_isDigit_zeros _⟩
  have hread := readUnsigned_point negative (p := zeros 1) (t := []) (by simp [hne]) hws
    (all_isDigit_zeros 1) (by simp) (e := 0) rfl (by omega) (by omega)
  have hshift := roundDecimal_shift n (e.toNat + 1) e
  have hlow : e - (e.toNat + 1 : ℕ) = -1 := by omega
  rw [hlow, pow_succ, ← mul_assoc] at hshift
  rw [natOfDigits_append, natOfDigits_append, hval, natOfDigits_zeros, natOfDigits_zeros,
    pow_one] at hread
  rw [Double.ofDecimal, ← hshift]
  exact hread

/-- The point is between the digits. -/
lemma readUnsigned_between {k : ℕ} (hall : ∀ c ∈ ds, c.isDigit = true) (hk : ds.take k ≠ [])
    (hval : natOfDigits 0 ds = n) (he : -((ds.length - k : ℕ) : ℤ) = e) :
    readUnsigned negative (ds.take k ++ '.' :: ds.drop k) =
      some (Double.ofDecimal negative n e) := by
  have hread := readUnsigned_point negative (p := ds.drop k) (t := []) hk
    (fun c hc => hall c (List.mem_of_mem_take hc))
    (fun c hc => hall c (List.mem_of_mem_drop hc)) (by simp) (e := 0) rfl (by omega) (by omega)
  rw [List.take_append_drop, hval, List.length_drop, zero_sub, he, List.append_nil] at hread
  exact hread

/-- The point is before the digits. -/
lemma readUnsigned_before {k : ℕ} (hall : ∀ c ∈ ds, c.isDigit = true)
    (hval : natOfDigits 0 ds = n) (he : -((k + ds.length : ℕ) : ℤ) = e) :
    readUnsigned negative ('0' :: '.' :: zeros k ++ ds) =
      some (Double.ofDecimal negative n e) := by
  have hps : ∀ c ∈ zeros k ++ ds, c.isDigit = true :=
    List.forall_mem_append.2 ⟨all_isDigit_zeros _, hall⟩
  have hread := readUnsigned_point negative (w := zeros 1) (t := []) (by simp [zeros])
    (all_isDigit_zeros 1) hps (by simp) (e := 0) rfl (by omega) (by omega)
  have hlength : (zeros k ++ ds).length = k + ds.length := by
    rw [List.length_append, zeros, List.length_replicate]
  rw [natOfDigits_append, natOfDigits_append, natOfDigits_zeros, natOfDigits_zeros,
    Nat.zero_mul, Nat.zero_mul, hval, hlength, zero_sub, he, List.append_nil] at hread
  exact hread

/-- One digit, and an exponent. -/
lemma readUnsigned_single {c : Char} (hc : c.isDigit = true) (hval : natOfDigits 0 [c] = n)
    (h1 : -1000 ≤ e) (h2 : e ≤ 1000) :
    readUnsigned negative ([c] ++ 'e' :: (if e < 0 then '-' else '+') ::
      Nat.toDigits 10 e.natAbs) = some (Double.ofDecimal negative n e) := by
  have hread := readUnsigned_whole negative (List.cons_ne_nil c []) (by simpa using hc) (by simp)
    (readExponent_signed e) h1 h2
  rwa [hval] at hread

/-- The point is after the first digit, and there is an exponent. -/
lemma readUnsigned_scientific {c : Char} {x : ℤ} (hc : c.isDigit = true)
    (hall : ∀ c ∈ ds, c.isDigit = true) (hval : natOfDigits 0 (c :: ds) = n)
    (he : x - ds.length = e) (h1 : -1000 ≤ x) (h2 : x ≤ 1000) :
    readUnsigned negative (c :: '.' :: ds ++ 'e' :: (if x < 0 then '-' else '+') ::
      Nat.toDigits 10 x.natAbs) = some (Double.ofDecimal negative n e) := by
  have hread := readUnsigned_point negative (List.cons_ne_nil c []) (by simpa using hc) hall
    (by simp) (readExponent_signed x) h1 h2
  rw [he, List.singleton_append (l := ds), hval] at hread
  exact hread

end Forms

/-- **The text of a decimal reads back to its value, rounded.** -/
theorem readUnsigned_text (negative : Bool) (d : Decimal)
    (hx1 : -1000 ≤ d.lead) (hx2 : d.lead ≤ 1000) :
    readUnsigned negative d.text = some (Double.ofDecimal negative d.digits d.exponent) := by
  unfold text
  unfold lead at hx1 hx2
  have hall := all_isDigit_toDigits d.digits
  have hne : Nat.toDigits 10 d.digits ≠ [] := Nat.toDigits_ne_nil
  have hval := natOfDigits_toDigits d.digits
  generalize Nat.toDigits 10 d.digits = ds at *
  have hlen := List.length_pos_iff.2 hne
  dsimp only
  set x : ℤ := d.exponent + ds.length - 1 with hx
  by_cases hrange : -5 ≤ x ∧ x ≤ 15
  · rw [if_pos hrange]
    split_ifs with hexp hx0
    · exact readUnsigned_integral negative hall hne hval hexp
    · exact readUnsigned_between negative hall (by simp [hne]) hval (by omega)
    · exact readUnsigned_before negative hall hval (by omega)
  · rw [if_neg hrange]
    match ds, hne with
    | [c], _ =>
      have hxe : x = d.exponent := by simp [hx]
      rw [hxe] at hx1 hx2 ⊢
      exact readUnsigned_single negative (hall c List.mem_cons_self) hval hx1 hx2
    | c :: c' :: more, _ =>
      obtain ⟨hc, hmore⟩ := List.forall_mem_cons.1 hall
      have hplaces : x - ((c' :: more).length : ℤ) = d.exponent := by
        rw [hx, List.length_cons (a := c)]
        push_cast
        ring
      exact readUnsigned_scientific negative hc hmore hval hplaces hx1 hx2

/-- A text opens with a digit, so it is not taken for one with a sign. -/
lemma exists_text_eq_cons (d : Decimal) : ∃ c s, d.text = c :: s ∧ c.isDigit = true := by
  obtain ⟨c, more, hds⟩ := List.exists_cons_of_ne_nil
    (Nat.toDigits_ne_nil (b := 10) (n := d.digits))
  have hc : c.isDigit = true := all_isDigit_toDigits d.digits c (by rw [hds]; simp)
  unfold text
  rw [hds]
  dsimp only
  split
  · split
    · exact ⟨c, _, rfl, hc⟩
    · split
      exacts [⟨c, _, rfl, hc⟩, ⟨'0', _, rfl, rfl⟩]
  · cases more with
    | nil => exact ⟨c, _, rfl, hc⟩
    | cons c' more => exact ⟨c, _, rfl, hc⟩

/-- Every text has a point or an exponent. -/
lemma point_or_mark_mem_text (d : Decimal) : '.' ∈ d.text ∨ 'e' ∈ d.text := by
  unfold text
  dsimp only
  split
  · left
    split
    · simp
    · split <;> simp
  · right
    simp

lemma isNumberChar_of_mem_text (d : Decimal) : ∀ c ∈ d.text, isNumberChar c = true := by
  have hdigits (n : ℕ) : ∀ c ∈ Nat.toDigits 10 n, isNumberChar c = true := fun c hc =>
    isNumberChar_of_isDigit (all_isDigit_toDigits n c hc)
  have hzeros (n : ℕ) : ∀ c ∈ zeros n, isNumberChar c = true := fun c hc =>
    isNumberChar_of_isDigit (all_isDigit_zeros n c hc)
  have hds := hdigits d.digits
  unfold text
  dsimp only
  generalize Nat.toDigits 10 d.digits = ds at *
  split
  · split
    · simp only [List.forall_mem_append, List.forall_mem_cons]
      exact ⟨⟨hds, hzeros _⟩, rfl, rfl, by simp⟩
    · split
      · simp only [List.forall_mem_append, List.forall_mem_cons]
        exact ⟨fun c hc => hds c (List.mem_of_mem_take hc), rfl,
          fun c hc => hds c (List.mem_of_mem_drop hc)⟩
      · simp only [List.cons_append, List.forall_mem_append, List.forall_mem_cons]
        exact ⟨rfl, rfl, hzeros _, hds⟩
  · simp only [List.forall_mem_append, List.forall_mem_cons]
    refine ⟨?_, rfl, by split <;> rfl, hdigits _⟩
    match ds with
    | [] => simp
    | [c] => exact hds
    | c :: c' :: more =>
      rw [List.forall_mem_cons] at hds
      exact List.forall_mem_cons.2 ⟨hds.1, List.forall_mem_cons.2 ⟨rfl, hds.2⟩⟩

/-! ### The fewest digits -/

lemma roundDecimal_neighbour? {m num den : ℕ} {e : ℤ} {d : Decimal}
    (h : neighbour? m num den e = some d) : roundDecimal d.digits d.exponent = m := by
  unfold neighbour? at h
  simp only at h
  split_ifs at h with h1 h2
  · rw [Option.some.injEq] at h
    subst h
    simp only [Bool.and_eq_true, beq_iff_eq] at h1
    exact h1.1
  · rw [Option.some.injEq] at h
    subst h
    simpa using h2

lemma roundDecimal_exact {m : ℕ} (hm : m < Double.infMagnitude) :
    roundDecimal (exact m).digits (exact m).exponent = m := by
  have hvalue := Double.roundRatio_value hm
  unfold exact
  dsimp only
  split_ifs with hs
  · have hs' : (-Double.shift m).toNat = 0 := by omega
    rw [Double.roundDecimal_eq]
    simpa [hs'] using hvalue
  · have hs' : (Double.shift m).toNat = 0 := by omega
    rw [hs', pow_zero, mul_one] at hvalue
    rw [Double.roundDecimal_eq, hs']
    refine (Double.roundRatio_congr (by positivity) (by positivity) ?_).trans hvalue
    rw [Nat.pow_eq, pow_zero, mul_one, mul_assoc, ← mul_pow]
    rfl

lemma roundDecimal_stripZeros (fuel : ℕ) (d : Decimal) :
    roundDecimal (stripZeros fuel d).digits (stripZeros fuel d).exponent
      = roundDecimal d.digits d.exponent := by
  induction fuel generalizing d with
  | zero => rfl
  | succ fuel ih =>
    unfold stripZeros
    split_ifs with h
    · have hshift := roundDecimal_shift (d.digits / 10) 1 (d.exponent + 1)
      have hdigits : d.digits / 10 * 10 ^ 1 = d.digits := by omega
      rw [hdigits, Nat.cast_one, add_sub_cancel_right] at hshift
      rw [ih, hshift]
    · rfl

lemma roundDecimal_shortest {m : ℕ} (hm : m < Double.infMagnitude) :
    roundDecimal (shortest m).digits (shortest m).exponent = m := by
  unfold shortest
  dsimp only
  rw [roundDecimal_stripZeros]
  cases hfind : (List.range 17).findSome? _ with
  | none => exact roundDecimal_exact hm
  | some d =>
    obtain ⟨n, -, hn⟩ := List.exists_of_findSome?_eq_some hfind
    exact roundDecimal_neighbour? hn

lemma lead_shortest {m : ℕ} (h0 : m ≠ 0) (hm : m < Double.infMagnitude) :
    -1000 ≤ (shortest m).lead ∧ (shortest m).lead ≤ 1000 := by
  have hround := roundDecimal_shortest hm
  generalize shortest m = d at *
  have hpos : 0 < d.digits := by
    refine Nat.pos_of_ne_zero fun hd => h0 ?_
    rw [← hround, hd]
    rfl
  obtain ⟨hlow, hhigh⟩ := toDigits_bounds hpos
  have hlen := Nat.length_toDigits_pos (b := 10) (n := d.digits)
  obtain ⟨h1, h2⟩ := Double.bounds_of_roundDecimal hhigh (by rw [hround]; exact h0)
    (by rw [hround]; exact hm.ne)
  have h3 := h2 _ hlow
  unfold lead
  omega

end Decimal

lemma Double.ofMagnitude_magnitude (x : Double) : ofMagnitude x.isNegative x.magnitude = x := by
  obtain ⟨b⟩ := x
  have hb := b.toNat_lt
  have hval : (if isNegative ⟨b⟩ then 0x8000000000000000 + magnitude ⟨b⟩ else magnitude ⟨b⟩)
      = b.toNat := by
    simp only [isNegative, magnitude, decide_eq_true_eq]
    split_ifs <;> omega
  unfold ofMagnitude
  rw [hval, UInt64.ofNat_toNat]

lemma readDouble_cons {c : Char} (hc : c.isDigit = true) (s : List Char) :
    readDouble (c :: s) = readUnsigned false (c :: s) := by
  unfold readDouble
  split
  · simp_all
  · simp_all
  · rfl

/-- **A finite number is read back from its text.** -/
theorem readDouble_text {x : Double} (hx : x.isFinite = true) : readDouble x.text = some x := by
  have hm : x.magnitude < Double.infMagnitude := by simpa [Double.isFinite] using hx
  set body := if x.isZero then ['0', '.', '0'] else (Decimal.shortest x.magnitude).text with hbody
  have hread : readUnsigned x.isNegative body = some x := by
    rw [hbody]
    split_ifs with h0
    · have h0' : x.magnitude = 0 := by simpa [Double.isZero] using h0
      refine (readUnsigned_point x.isNegative (w := ['0']) (p := ['0']) (t := []) (by simp)
        (by simp) (by simp) (by simp) (e := 0) rfl (by omega) (by omega)).trans ?_
      have hzero := x.ofMagnitude_magnitude
      rw [h0'] at hzero
      exact congrArg some hzero
    · have h0' : x.magnitude ≠ 0 := by simpa [Double.isZero] using h0
      obtain ⟨h1, h2⟩ := Decimal.lead_shortest h0' hm
      rw [Decimal.readUnsigned_text _ _ h1 h2, Double.ofDecimal,
        Decimal.roundDecimal_shortest hm, Double.ofMagnitude_magnitude]
  have hdigit : ∃ c s, body = c :: s ∧ c.isDigit = true := by
    rw [hbody]
    split_ifs
    · exact ⟨'0', _, rfl, rfl⟩
    · exact Decimal.exists_text_eq_cons _
  unfold Double.text
  simp only [← hbody]
  cases hsign : x.isNegative with
  | true =>
    rw [hsign] at hread
    exact hread
  | false =>
    rw [hsign] at hread
    obtain ⟨c, s, hs, hc⟩ := hdigit
    rw [hs] at hread ⊢
    exact (readDouble_cons hc s).trans hread

lemma Double.point_or_mark_mem_text (x : Double) : '.' ∈ x.text ∨ 'e' ∈ x.text := by
  have hbody : '.' ∈ (if x.isZero then ['0', '.', '0'] else (Decimal.shortest x.magnitude).text) ∨
      'e' ∈ (if x.isZero then ['0', '.', '0'] else (Decimal.shortest x.magnitude).text) := by
    split
    · decide
    · exact Decimal.point_or_mark_mem_text _
  unfold text
  cases x.isNegative with
  | true => exact hbody.imp (List.mem_cons_of_mem _) (List.mem_cons_of_mem _)
  | false => exact hbody

lemma Double.isNumberChar_of_mem_text (x : Double) : ∀ c ∈ x.text, isNumberChar c = true := by
  have hbody : ∀ c ∈ (if x.isZero then ['0', '.', '0'] else (Decimal.shortest x.magnitude).text),
      isNumberChar c = true := by
    split
    · exact List.all_eq_true.1 (by decide)
    · exact Decimal.isNumberChar_of_mem_text _
  unfold text
  cases x.isNegative with
  | true => exact List.forall_mem_cons.2 ⟨rfl, hbody⟩
  | false => exact hbody

/-- **Two finite numbers never share a text.** -/
theorem Double.text_injective {x y : Double} (hx : x.isFinite = true) (hy : y.isFinite = true)
    (h : x.text = y.text) : x = y := by
  have hread := readDouble_text hx
  rw [h, readDouble_text hy] at hread
  exact (Option.some.inj hread).symm

end Attestation.Numeral
