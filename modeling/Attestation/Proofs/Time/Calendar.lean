import Attestation.Time.Instant
import Mathlib.Algebra.Order.Ring.Nat
import Mathlib.Logic.Function.Iterate
import Mathlib.Tactic.Lemma

/-!
The calendar and the order of instants.

The number of a day counts the days of the calendar one by one, so it grows with the year, the month
and the day, in this order of weight. Times with one offset are in the order of their fields, also
around a leap second. A clock that is a minute further ahead and says so shows the same instant, and
two times of one instant are always such clocks some minutes apart.
-/

namespace Attestation.Time

/-! ### Days -/

lemma one_le_daysInMonth (y m : ℕ) : 1 ≤ daysInMonth y m := by
  unfold daysInMonth
  split
  · split <;> omega
  all_goals omega

lemma daysBeforeMonth_succ (y : ℕ) {m : ℕ} (hm : 1 ≤ m) :
    daysBeforeMonth y (m + 1) = daysBeforeMonth y m + daysInMonth y m := by
  obtain ⟨k, rfl⟩ := Nat.exists_eq_add_of_le' hm
  rfl

lemma daysBeforeMonth_mono (y : ℕ) {m n : ℕ} (hm : 1 ≤ m) (h : m ≤ n) :
    daysBeforeMonth y m ≤ daysBeforeMonth y n := by
  induction n, h using Nat.le_induction with
  | base => exact le_rfl
  | succ n hn ih =>
    rw [daysBeforeMonth_succ y (hm.trans hn)]
    omega

/-- The years before the next that a cycle of `k + 1` years counts. -/
lemma div_succ_cycle (y k : ℕ) :
    (y + 1 + k) / (k + 1) = (y + k) / (k + 1) + if y % (k + 1) = 0 then 1 else 0 := by
  rw [show y + 1 + k = y + k + 1 by omega, Nat.succ_div, Nat.add_assoc]
  simp [Nat.dvd_iff_mod_eq_zero]

lemma leapYearsBefore_succ (y : ℕ) :
    leapYearsBefore (y + 1) = leapYearsBefore y + if isLeapYear y then 1 else 0 := by
  have hle : (y + 99) / 100 ≤ (y + 3) / 4 := by omega
  have hleap : isLeapYear y = true ↔ y % 4 = 0 ∧ (y % 100 ≠ 0 ∨ y % 400 = 0) := by
    simp [isLeapYear]
  have h100 : y % 100 = 0 → y % 4 = 0 := by omega
  have h400 : y % 400 = 0 → y % 100 = 0 := by omega
  unfold leapYearsBefore
  rw [div_succ_cycle y 3, div_succ_cycle y 99, div_succ_cycle y 399]
  simp only [hleap, Nat.reduceAdd]
  generalize (y + 3) / 4 = q4 at *
  generalize (y + 99) / 100 = q100 at *
  split_ifs <;> omega

lemma daysBeforeMonth_thirteen (y : ℕ) :
    daysBeforeMonth y 13 = 365 + if isLeapYear y then 1 else 0 := by
  simp only [daysBeforeMonth, daysInMonth]
  split <;> rfl

/-- The number of the first day of a year. -/
def yearStart (y : ℕ) : ℕ := 365 * y + leapYearsBefore y

lemma yearStart_succ (y : ℕ) : yearStart (y + 1) = yearStart y + daysBeforeMonth y 13 := by
  rw [yearStart, yearStart, leapYearsBefore_succ, daysBeforeMonth_thirteen]
  omega

lemma yearStart_mono {y z : ℕ} (h : y ≤ z) : yearStart y ≤ yearStart z := by
  induction z, h using Nat.le_induction with
  | base => exact le_rfl
  | succ z hz ih =>
    rw [yearStart_succ]
    omega

/-! ### Instants -/

namespace Instant

lemma compare_swap (a b : Instant) : (a.compare b).swap = b.compare a := by
  unfold Instant.compare
  rw [Ordering.swap_then, Int.compare_swap, Nat.compare_swap]

lemma compare_eq_lt_iff {a b : Instant} :
    a.compare b = .lt ↔ a.seconds < b.seconds ∨ a.seconds = b.seconds ∧ a.nanos < b.nanos := by
  unfold Instant.compare
  rw [Ordering.then_eq_lt, compare_lt_iff_lt, compare_eq_iff_eq, compare_lt_iff_lt]

lemma compare_eq_eq_iff {a b : Instant} : a.compare b = .eq ↔ a = b := by
  unfold Instant.compare
  rw [Ordering.then_eq_eq, compare_eq_iff_eq, compare_eq_iff_eq, Instant.mk.injEq]

end Instant

/-! ### Times with one offset -/

namespace Civil

lemma isValid_iff {c : Civil} : c.isValid = true ↔
    (1 ≤ c.month ∧ c.month ≤ 12) ∧ (1 ≤ c.day ∧ c.day ≤ daysInMonth c.year c.month) ∧
      c.hour ≤ 23 ∧ c.minute ≤ 59 ∧ c.second ≤ 60 := by
  simp only [isValid, Bool.and_eq_true, decide_eq_true_eq, and_assoc]

/-- A time such as is written: within the calendar and the clock, the offset in whole minutes. -/
structure Proper (c : Civil) : Prop where
  isValid : c.isValid = true
  nanos_lt : c.nanos < 1000000000
  dvd_offset : 60 ∣ c.offset

/-- Compares the fields from the year down, the offset apart. -/
def order (c d : Civil) : Ordering :=
  (compare c.year d.year).then <| (compare c.month d.month).then <|
    (compare c.day d.day).then <| (compare c.hour d.hour).then <|
      (compare c.minute d.minute).then <| (compare c.second d.second).then <|
        compare c.nanos d.nanos

lemma order_swap (c d : Civil) : (c.order d).swap = d.order c := by
  simp only [order, Ordering.swap_then, Nat.compare_swap]

lemma eq_of_order {c d : Civil} (ho : c.offset = d.offset) (h : c.order d = .eq) : c = d := by
  simp only [order, Ordering.then_eq_eq, Nat.compare_eq_eq] at h
  obtain ⟨hy, hm, hd, hh, hi, hs, hn⟩ := h
  cases c
  cases d
  simp_all

/-- The number of the day. -/
def dayOf (c : Civil) : ℕ := dayNumber c.year c.month c.day

/-- The seconds of the day, a sixtieth second counting with the one before it. -/
def secondOfDay (c : Civil) : ℕ := c.hour * 3600 + c.minute * 60 + min c.second 59

lemma dayOf_eq (c : Civil) :
    c.dayOf = yearStart c.year + daysBeforeMonth c.year c.month + (c.day - 1) := rfl

lemma wallSeconds_eq (c : Civil) :
    c.wallSeconds = ((c.dayOf : ℤ) - dayNumber 1970 1 1) * 86400 + c.secondOfDay := rfl

section Order

variable {c d : Civil}

/-- A day is over before the first of the next month, -/
lemma dayOf_lt_month (hc : c.isValid = true) :
    c.dayOf < yearStart c.year + daysBeforeMonth c.year (c.month + 1) := by
  obtain ⟨⟨hm, -⟩, ⟨hd, hd'⟩, -⟩ := isValid_iff.1 hc
  rw [dayOf_eq, daysBeforeMonth_succ _ hm]
  omega

/-- and before the next year. -/
lemma dayOf_lt_year (hc : c.isValid = true) : c.dayOf < yearStart (c.year + 1) := by
  obtain ⟨⟨hm, hm'⟩, -⟩ := isValid_iff.1 hc
  have hlast := daysBeforeMonth_mono c.year (show 1 ≤ c.month + 1 by omega)
    (show c.month + 1 ≤ 13 by omega)
  have := dayOf_lt_month hc
  rw [yearStart_succ]
  omega

lemma dayOf_lt_of_year (hc : c.isValid = true) (h : c.year < d.year) : c.dayOf < d.dayOf :=
  calc c.dayOf < yearStart (c.year + 1) := dayOf_lt_year hc
    _ ≤ yearStart d.year := yearStart_mono h
    _ ≤ d.dayOf := by rw [dayOf_eq]; omega

lemma dayOf_lt_of_month (hc : c.isValid = true) (hy : c.year = d.year) (h : c.month < d.month) :
    c.dayOf < d.dayOf :=
  calc c.dayOf < yearStart c.year + daysBeforeMonth c.year (c.month + 1) := dayOf_lt_month hc
    _ ≤ yearStart c.year + daysBeforeMonth c.year d.month :=
      Nat.add_le_add_left (daysBeforeMonth_mono _ (by omega) h) _
    _ ≤ d.dayOf := by rw [dayOf_eq, hy]; omega

lemma dayOf_lt_of_day (hc : c.isValid = true) (hy : c.year = d.year) (hm : c.month = d.month)
    (h : c.day < d.day) : c.dayOf < d.dayOf := by
  obtain ⟨-, ⟨hd, -⟩, -⟩ := isValid_iff.1 hc
  rw [dayOf_eq, dayOf_eq, hy, hm]
  omega

lemma secondOfDay_lt (hc : c.isValid = true) : c.secondOfDay < 86400 := by
  obtain ⟨-, -, hh, hi, -⟩ := isValid_iff.1 hc
  unfold secondOfDay
  omega

/-- Of two days with one offset the later begins after the other is over. -/
lemma instant_lt_of_dayOf (hc : c.isValid = true) (ho : c.offset = d.offset)
    (h : c.dayOf < d.dayOf) : c.instant.compare d.instant = .lt := by
  have hs := secondOfDay_lt hc
  rw [Instant.compare_eq_lt_iff]
  left
  simp only [instant, wallSeconds_eq, ho]
  omega

/-- Within a day the seconds decide, -/
lemma instant_lt_of_secondOfDay (ho : c.offset = d.offset) (hd : c.dayOf = d.dayOf)
    (h : c.secondOfDay < d.secondOfDay) : c.instant.compare d.instant = .lt := by
  rw [Instant.compare_eq_lt_iff]
  left
  simp only [instant, wallSeconds_eq, ho, hd]
  omega

/-- and then what is left of them. -/
lemma instant_lt_of_nanos (ho : c.offset = d.offset) (hd : c.dayOf = d.dayOf)
    (hs : c.secondOfDay = d.secondOfDay) (h : c.instant.nanos < d.instant.nanos) :
    c.instant.compare d.instant = .lt := by
  rw [Instant.compare_eq_lt_iff]
  right
  exact ⟨by simp only [instant, wallSeconds_eq, ho, hd, hs], h⟩

lemma dayOf_congr (hy : c.year = d.year) (hm : c.month = d.month) (hd : c.day = d.day) :
    c.dayOf = d.dayOf := by
  rw [dayOf, dayOf, hy, hm, hd]

/-- The sixtieth second shares its count with the one before it and is told from it by the
nanoseconds. -/
lemma instant_lt_of_second (hc : c.Proper) (hd : d.Proper) (ho : c.offset = d.offset)
    (hday : c.dayOf = d.dayOf) (hh : c.hour = d.hour) (hi : c.minute = d.minute)
    (h : c.second < d.second) : c.instant.compare d.instant = .lt := by
  obtain ⟨-, -, -, -, hs⟩ := isValid_iff.1 hd.isValid
  by_cases hleap : c.second = 59 ∧ d.second = 60
  · refine instant_lt_of_nanos ho hday (by simp only [secondOfDay]; omega) ?_
    have := hc.nanos_lt
    simp only [instant, hleap.1, hleap.2]
    split_ifs <;> omega
  · exact instant_lt_of_secondOfDay ho hday (by simp only [secondOfDay]; omega)

lemma instant_lt_of_order (hc : c.Proper) (hd : d.Proper) (ho : c.offset = d.offset)
    (h : c.order d = .lt) : c.instant.compare d.instant = .lt := by
  obtain ⟨-, -, hch, hci, -⟩ := isValid_iff.1 hc.isValid
  simp only [order, Ordering.then_eq_lt, Nat.compare_eq_lt, Nat.compare_eq_eq] at h
  rcases h with hy | ⟨hy, hm | ⟨hm, hday | ⟨hday, h⟩⟩⟩
  · exact instant_lt_of_dayOf hc.isValid ho (dayOf_lt_of_year hc.isValid hy)
  · exact instant_lt_of_dayOf hc.isValid ho (dayOf_lt_of_month hc.isValid hy hm)
  · exact instant_lt_of_dayOf hc.isValid ho (dayOf_lt_of_day hc.isValid hy hm hday)
  have hsame : c.dayOf = d.dayOf := dayOf_congr hy hm hday
  rcases h with hh | ⟨hh, hi | ⟨hi, hs | ⟨hs, hn⟩⟩⟩
  · exact instant_lt_of_secondOfDay ho hsame (by simp only [secondOfDay]; omega)
  · exact instant_lt_of_secondOfDay ho hsame (by simp only [secondOfDay]; omega)
  · exact instant_lt_of_second hc hd ho hsame hh hi hs
  · refine instant_lt_of_nanos ho hsame (by rw [secondOfDay, secondOfDay, hh, hi, hs]) ?_
    simp only [instant, hs]
    omega

/-- **Times with one offset are in the order of their fields.** -/
theorem instant_compare (hc : c.Proper) (hd : d.Proper) (ho : c.offset = d.offset) :
    c.instant.compare d.instant = c.order d := by
  cases h : c.order d with
  | lt => exact instant_lt_of_order hc hd ho h
  | eq => rw [eq_of_order ho h, Instant.compare_eq_eq_iff]
  | gt =>
    have hswap : d.order c = .lt := by rw [← order_swap, h]; rfl
    rw [← Instant.compare_swap, instant_lt_of_order hd hc ho.symm hswap]
    rfl

end Order

/-! ### Clocks ahead of each other -/

/-- The same time on the next day of the calendar. -/
def nextDay (c : Civil) : Civil :=
  if c.day < daysInMonth c.year c.month then { c with day := c.day + 1 }
  else if c.month < 12 then { c with month := c.month + 1, day := 1 }
  else { c with year := c.year + 1, month := 1, day := 1 }

/-- What a clock shows that is one minute further ahead, and says that it is. -/
def ahead (c : Civil) : Civil :=
  if c.minute < 59 then { c with minute := c.minute + 1, offset := c.offset + 60 }
  else if c.hour < 23 then { c with hour := c.hour + 1, minute := 0, offset := c.offset + 60 }
  else nextDay { c with hour := 0, minute := 0, offset := c.offset + 60 }

/-- Two times of which one is the other on a clock some minutes ahead. -/
def Rewritten (c d : Civil) : Prop := ∃ n, ahead^[n] c = d ∨ ahead^[n] d = c

section Ahead

variable {c d : Civil}

lemma dayOf_nextDay (hc : c.isValid = true) : c.nextDay.dayOf = c.dayOf + 1 := by
  obtain ⟨⟨hm, hm'⟩, ⟨hd, hd'⟩, -⟩ := isValid_iff.1 hc
  unfold nextDay
  split_ifs with hday hmonth
  · simp only [dayOf_eq]
    omega
  · simp only [dayOf_eq, daysBeforeMonth_succ _ hm]
    omega
  · have hlast : c.month = 12 := by omega
    have hyear := daysBeforeMonth_succ c.year (show 1 ≤ 12 by omega)
    have hfirst : daysBeforeMonth (c.year + 1) 1 = 0 := rfl
    simp only [dayOf_eq, yearStart_succ, hlast, hyear, hfirst] at *
    omega

lemma isValid_nextDay (hc : c.isValid = true) : c.nextDay.isValid = true := by
  obtain ⟨⟨hm, hm'⟩, ⟨hd, hd'⟩, hrest⟩ := isValid_iff.1 hc
  unfold nextDay
  split_ifs with hday hmonth
  · exact isValid_iff.2 ⟨⟨hm, hm'⟩, ⟨Nat.le_add_left 1 _, hday⟩, hrest⟩
  · exact isValid_iff.2 ⟨⟨Nat.le_add_left 1 _, hmonth⟩, ⟨le_rfl, one_le_daysInMonth _ _⟩, hrest⟩
  · exact isValid_iff.2 ⟨⟨le_rfl, show 1 ≤ 12 by omega⟩, ⟨le_rfl, one_le_daysInMonth _ _⟩, hrest⟩

lemma nextDay_eq (c : Civil) :
    ∃ y m d, c.nextDay = { c with year := y, month := m, day := d } := by
  unfold nextDay
  split_ifs
  · exact ⟨_, _, _, rfl⟩
  · exact ⟨_, _, _, rfl⟩
  · exact ⟨_, _, _, rfl⟩

lemma isValid_ahead (hc : c.isValid = true) : c.ahead.isValid = true := by
  obtain ⟨hm, hd, hh, hi, hs⟩ := isValid_iff.1 hc
  unfold ahead
  split_ifs with hminute hhour
  · exact isValid_iff.2 ⟨hm, hd, hh, hminute, hs⟩
  · exact isValid_iff.2 ⟨hm, hd, hhour, Nat.zero_le _, hs⟩
  · exact isValid_nextDay (isValid_iff.2 ⟨hm, hd, Nat.zero_le _, Nat.zero_le _, hs⟩)

/-- One minute more on the clock, and only that. -/
lemma ahead_spec (hc : c.isValid = true) :
    c.ahead.dayOf * 86400 + c.ahead.secondOfDay = c.dayOf * 86400 + c.secondOfDay + 60 ∧
      c.ahead.second = c.second ∧ c.ahead.nanos = c.nanos ∧ c.ahead.offset = c.offset + 60 := by
  obtain ⟨hm, hd, hh, hi, hs⟩ := isValid_iff.1 hc
  unfold ahead
  split_ifs with hminute hhour
  · refine ⟨?_, rfl, rfl, rfl⟩
    simp only [dayOf, secondOfDay]
    omega
  · refine ⟨?_, rfl, rfl, rfl⟩
    simp only [dayOf, secondOfDay]
    omega
  · -- midnight: the day grows by one and the clock starts again
    set e : Civil := { c with hour := 0, minute := 0, offset := c.offset + 60 } with he
    have hday : e.nextDay.dayOf = c.dayOf + 1 :=
      dayOf_nextDay (c := e) (isValid_iff.2 ⟨hm, hd, Nat.zero_le _, Nat.zero_le _, hs⟩)
    obtain ⟨y, m, d, hnext⟩ := nextDay_eq e
    refine ⟨?_, by rw [hnext], by rw [hnext], by rw [hnext]⟩
    rw [hday, hnext]
    simp only [secondOfDay, he]
    omega

lemma Proper.ahead (hc : c.Proper) : c.ahead.Proper := by
  obtain ⟨-, -, hn, ho⟩ := ahead_spec hc.isValid
  refine ⟨isValid_ahead hc.isValid, hn ▸ hc.nanos_lt, ?_⟩
  rw [ho]
  exact Int.dvd_add hc.dvd_offset (Int.dvd_refl 60)

lemma instant_ahead (hc : c.isValid = true) : c.ahead.instant = c.instant := by
  obtain ⟨hwall, hs, hn, ho⟩ := ahead_spec hc
  simp only [instant, wallSeconds_eq, hs, hn, ho, Instant.mk.injEq, and_true]
  omega

lemma Proper.iterate (hc : c.Proper) (n : ℕ) : (Civil.ahead^[n] c).Proper := by
  induction n generalizing c with
  | zero => exact hc
  | succ n ih => exact ih hc.ahead

lemma instant_iterate (hc : c.Proper) (n : ℕ) : (Civil.ahead^[n] c).instant = c.instant := by
  induction n generalizing c with
  | zero => rfl
  | succ n ih => exact (ih hc.ahead).trans (instant_ahead hc.isValid)

lemma offset_iterate (hc : c.Proper) (n : ℕ) :
    (Civil.ahead^[n] c).offset = c.offset + 60 * n := by
  induction n generalizing c with
  | zero => simp
  | succ n ih =>
    rw [Function.iterate_succ_apply, ih hc.ahead, (ahead_spec hc.isValid).2.2.2]
    omega

/-- Of two clocks the one behind can be put forward until it says the same of itself. -/
lemma exists_iterate_offset (hc : c.Proper) (hd : d.Proper) (h : c.offset ≤ d.offset) :
    ∃ n, (Civil.ahead^[n] c).offset = d.offset := by
  obtain ⟨k, hk⟩ := Int.dvd_sub hd.dvd_offset hc.dvd_offset
  refine ⟨k.toNat, ?_⟩
  rw [offset_iterate hc]
  omega

/-- A clock put forward to the other's offset shows what the other shows, if they agree on the
instant. -/
lemma iterate_eq_of_instant (hc : c.Proper) (hd : d.Proper) (hi : c.instant = d.instant)
    (h : c.offset ≤ d.offset) : ∃ n, Civil.ahead^[n] c = d := by
  obtain ⟨n, hn⟩ := exists_iterate_offset hc hd h
  have horder : (Civil.ahead^[n] c).order d = .eq := by
    rw [← instant_compare (hc.iterate n) hd hn, instant_iterate hc, Instant.compare_eq_eq_iff, hi]
  exact ⟨n, eq_of_order hn horder⟩

/-- **Times of one instant are those that clocks show which are some minutes apart.** -/
theorem instant_eq_iff (hc : c.Proper) (hd : d.Proper) :
    c.instant = d.instant ↔ c.Rewritten d := by
  constructor
  · intro h
    rcases le_total c.offset d.offset with ho | ho
    · obtain ⟨n, hn⟩ := iterate_eq_of_instant hc hd h ho
      exact ⟨n, .inl hn⟩
    · obtain ⟨n, hn⟩ := iterate_eq_of_instant hd hc h.symm ho
      exact ⟨n, .inr hn⟩
  · rintro ⟨n, rfl | rfl⟩
    · rw [instant_iterate hc]
    · rw [instant_iterate hd]

example : (⟨1999, 12, 31, 23, 59, 60, 0, 0⟩ : Civil).ahead = ⟨2000, 1, 1, 0, 0, 60, 0, 60⟩ := rfl

end Ahead

end Civil

end Attestation.Time
