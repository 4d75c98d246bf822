import Attestation.Proofs.Text.Runs
import Attestation.Proofs.Time.Calendar
import Attestation.Time.Rfc3339

/-!
What a timestamp spells.

The texts that are read are those of a grammar, piece by piece, and a text spells one time: the
digits are the fields, a fraction is cut after nine places, and an offset is a number of minutes
between a day to the west and a day to the east.
-/

namespace Attestation.Time

/-! ### The grammar -/

/-- The text is `n` digits of the value `v`. -/
def IsNumber (n v : ℕ) (s : List Char) : Prop :=
  s.length = n ∧ (∀ c ∈ s, c.isDigit = true) ∧ Nat.ofDigitChars 10 s 0 = v

/-- The text is a fraction of a second, of so many whole nanoseconds. -/
inductive IsFraction : ℕ → List Char → Prop
  | whole : IsFraction 0 []
  | point {ds : List Char} (hne : ds ≠ []) (hds : ∀ c ∈ ds, c.isDigit = true) :
    IsFraction (Nat.ofDigitChars 10 ((ds ++ List.replicate 9 '0').take 9) 0) ('.' :: ds)

/-- The text is an offset of so many seconds to the east. -/
inductive IsOffset : ℤ → List Char → Prop
  | universal {z : Char} (hz : z = 'Z' ∨ z = 'z') : IsOffset 0 [z]
  | east {h m : ℕ} {hs ms : List Char} (hh : IsNumber 2 h hs) (hm : IsNumber 2 m ms)
    (hh' : h ≤ 23) (hm' : m ≤ 59) : IsOffset (h * 3600 + m * 60 : ℕ) ('+' :: (hs ++ ':' :: ms))
  | west {sign : Char} {h m : ℕ} {hs ms : List Char} (hsign : sign = '-' ∨ sign = '\u2212')
    (hh : IsNumber 2 h hs) (hm : IsNumber 2 m ms) (hh' : h ≤ 23) (hm' : m ≤ 59) :
    IsOffset (-(h * 3600 + m * 60 : ℕ)) (sign :: (hs ++ ':' :: ms))

/-- The text is the date and the time of day, with the offset they are written with. -/
inductive Civil.IsText (c : Civil) : List Char → Prop
  | intro {year month day hour minute second fraction offset : List Char} {t : Char}
    (hyear : IsNumber 4 c.year year) (hmonth : IsNumber 2 c.month month)
    (hday : IsNumber 2 c.day day) (ht : t = 'T' ∨ t = 't' ∨ t = ' ')
    (hhour : IsNumber 2 c.hour hour) (hminute : IsNumber 2 c.minute minute)
    (hsecond : IsNumber 2 c.second second) (hfraction : IsFraction c.nanos fraction)
    (hoffset : IsOffset c.offset offset) (hvalid : c.isValid = true) :
    IsText c (year ++ '-' :: (month ++ '-' :: (day ++ t :: (hour ++ ':' :: (minute ++
      ':' :: (second ++ (fraction ++ offset)))))))

/-! ### The pieces -/

lemma takeNumber_eq_some_iff {n v : ℕ} {s rest : List Char} :
    takeNumber n s = some (v, rest) ↔ ∃ ds, s = ds ++ rest ∧ IsNumber n v ds := by
  unfold takeNumber IsNumber
  constructor
  · intro h
    simp only [List.all_eq_true, Option.ite_none_right_eq_some, Option.some.injEq,
      Prod.mk.injEq] at h
    obtain ⟨⟨hlen, hds⟩, hv, rfl⟩ := h
    exact ⟨s.take n, by rw [List.take_append_drop], hlen, hds, hv⟩
  · rintro ⟨ds, rfl, hlen, hds, hv⟩
    have htake : (ds ++ rest).take n = ds := by rw [← hlen, List.take_left]
    have hdrop : (ds ++ rest).drop n = rest := by rw [← hlen, List.drop_left]
    simp only [htake, hdrop, if_pos (And.intro hlen (List.all_eq_true.2 hds)), ← hv]
    rfl

lemma takeChar_eq_some_iff {p : Char → Bool} {s rest : List Char} :
    takeChar p s = some rest ↔ ∃ c, p c = true ∧ s = c :: rest := by
  cases s with
  | nil => simp [takeChar]
  | cons c s =>
    simp only [takeChar, Option.ite_none_right_eq_some, Option.some.injEq, List.cons.injEq]
    constructor
    · rintro ⟨hc, rfl⟩
      exact ⟨c, hc, rfl, rfl⟩
    · rintro ⟨_, hc, rfl, rfl⟩
      exact ⟨hc, rfl⟩

lemma exists_of_takeFraction {n : ℕ} {s rest : List Char} (h : takeFraction s = some (n, rest)) :
    ∃ f, s = f ++ rest ∧ IsFraction n f := by
  unfold takeFraction at h
  split at h
  · rename_i s
    simp only [List.isEmpty_iff, Option.ite_none_left_eq_some, Option.some.injEq,
      Prod.mk.injEq] at h
    obtain ⟨hne, rfl, rfl⟩ := h
    have hs : s = s.takeWhile Char.isDigit ++ s.dropWhile Char.isDigit :=
      List.takeWhile_append_dropWhile.symm
    exact ⟨'.' :: s.takeWhile Char.isDigit, congrArg ('.' :: ·) hs,
      .point hne fun c => List.mem_takeWhile_imp⟩
  · obtain ⟨rfl, rfl⟩ := Prod.mk.inj (Option.some.inj h)
    exact ⟨[], rfl, .whole⟩

/-- A fraction ends where something else begins. -/
lemma takeFraction_append {n : ℕ} {f rest : List Char} (hf : IsFraction n f)
    (hrest : ∀ c ∈ rest.head?, c ≠ '.' ∧ c.isDigit = false) :
    takeFraction (f ++ rest) = some (n, rest) := by
  cases hf with
  | whole =>
    unfold takeFraction
    split
    · rename_i heq
      rw [List.nil_append] at heq
      exact absurd rfl (hrest '.' (by rw [heq]; rfl)).1
    · rfl
  | point hne hds =>
    obtain ⟨hrun, hleft⟩ := Text.takeWhile_run hds fun c hc => (hrest c hc).2
    rw [List.cons_append, takeFraction, hrun, hleft, if_neg (by simpa using hne)]
    rfl

/-- Hours and minutes after the sign. -/
lemma takeOffset_sign {sign : Char} (hsign : sign = '+' ∨ sign = '-' ∨ sign = '\u2212')
    {o : ℤ} {s rest : List Char} : takeOffset (sign :: s) = some (o, rest) ↔
      ∃ h m hs ms, s = hs ++ ':' :: (ms ++ rest) ∧ IsNumber 2 h hs ∧ IsNumber 2 m ms ∧
        (h ≤ 23 ∧ m ≤ 59) ∧ o = if sign = '+' then ((h * 3600 + m * 60 : ℕ) : ℤ)
          else -((h * 3600 + m * 60 : ℕ) : ℤ) := by
  have hz : ¬ (sign = 'Z' ∨ sign = 'z') := by rcases hsign with rfl | rfl | rfl <;> decide
  simp only [takeOffset, if_neg hz, if_pos hsign, Option.bind_eq_bind, Option.bind_eq_some_iff,
    Prod.exists, takeNumber_eq_some_iff, takeChar_eq_some_iff, beq_iff_eq,
    Option.ite_none_right_eq_some, Option.some.injEq, Prod.mk.injEq]
  constructor
  · rintro ⟨h, s₁, ⟨hs, rfl, hh⟩, s₂, ⟨_, rfl, rfl⟩, m, s₃, ⟨ms, rfl, hm⟩, hle, rfl, rfl⟩
    exact ⟨h, m, hs, ms, rfl, hh, hm, hle, rfl⟩
  · rintro ⟨h, m, hs, ms, rfl, hh, hm, hle, rfl⟩
    exact ⟨h, _, ⟨hs, rfl, hh⟩, _, ⟨':', rfl, rfl⟩, m, rest, ⟨ms, rfl, hm⟩, hle, rfl, rfl⟩

lemma takeOffset_eq_some_iff {o : ℤ} {s rest : List Char} :
    takeOffset s = some (o, rest) ↔ ∃ t, s = t ++ rest ∧ IsOffset o t := by
  constructor
  · intro h
    cases s with
    | nil => simp [takeOffset] at h
    | cons c s =>
      by_cases hz : c = 'Z' ∨ c = 'z'
      · rw [takeOffset, if_pos hz] at h
        obtain ⟨rfl, rfl⟩ := Prod.mk.inj (Option.some.inj h)
        exact ⟨[c], rfl, .universal hz⟩
      by_cases hsign : c = '+' ∨ c = '-' ∨ c = '\u2212'
      · obtain ⟨h, m, hs, ms, rfl, hh, hm, ⟨hh', hm'⟩, rfl⟩ := (takeOffset_sign hsign).1 h
        refine ⟨c :: (hs ++ ':' :: ms), by simp, ?_⟩
        split_ifs with hplus
        · rw [hplus]
          exact .east hh hm hh' hm'
        · exact .west (hsign.resolve_left hplus) hh hm hh' hm'
      · rw [takeOffset, if_neg hz, if_neg hsign] at h
        cases h
  · rintro ⟨t, rfl, ht⟩
    cases ht with
    | universal hz => rw [List.singleton_append, takeOffset, if_pos hz]
    | @east h m hs ms hh hm hh' hm' =>
      rw [List.cons_append, takeOffset_sign (.inl rfl)]
      exact ⟨h, m, hs, ms, by simp, hh, hm, ⟨hh', hm'⟩, rfl⟩
    | @west sign h m hs ms hsign hh hm hh' hm' =>
      rw [List.cons_append, takeOffset_sign (.inr hsign)]
      refine ⟨h, m, hs, ms, by simp, hh, hm, ⟨hh', hm'⟩, ?_⟩
      rw [if_neg (by rcases hsign with rfl | rfl <;> decide)]

lemma head_of_isOffset {o : ℤ} {s : List Char} (h : IsOffset o s) :
    ∀ c ∈ s.head?, c ≠ '.' ∧ c.isDigit = false := by
  have hhead {d : Char} {t : List Char} (hd : d ≠ '.' ∧ d.isDigit = false) :
      ∀ c ∈ (d :: t).head?, c ≠ '.' ∧ c.isDigit = false := fun c hc => by
    rw [← Option.mem_some.1 hc]
    exact hd
  cases h with
  | universal hz => exact hhead (by rcases hz with rfl | rfl <;> decide)
  | east => exact hhead (by decide)
  | west hsign => exact hhead (by rcases hsign with rfl | rfl <;> decide)

/-! ### The whole text -/

section Steps

variable {α : Type} {n v : ℕ} {p : Char → Bool} {s rest : List Char} {r : α}

lemma exists_of_takeNumber_bind {f : ℕ × List Char → Option α}
    (h : (takeNumber n s >>= f) = some r) :
    ∃ v ds rest, IsNumber n v ds ∧ f (v, rest) = some r ∧ s = ds ++ rest := by
  obtain ⟨⟨v, rest⟩, hs, hf⟩ := Option.bind_eq_some_iff.1 h
  obtain ⟨ds, rfl, hds⟩ := takeNumber_eq_some_iff.1 hs
  exact ⟨v, ds, rest, hds, hf, rfl⟩

lemma takeNumber_bind {ds : List Char} (h : IsNumber n v ds) (f : ℕ × List Char → Option α) :
    (takeNumber n (ds ++ rest) >>= f) = f (v, rest) := by
  rw [takeNumber_eq_some_iff.2 ⟨ds, rfl, h⟩]
  rfl

lemma exists_of_takeChar_bind {f : List Char → Option α} (h : (takeChar p s >>= f) = some r) :
    ∃ c rest, p c = true ∧ f rest = some r ∧ s = c :: rest := by
  obtain ⟨rest, hs, hf⟩ := Option.bind_eq_some_iff.1 h
  obtain ⟨c, hc, rfl⟩ := takeChar_eq_some_iff.1 hs
  exact ⟨c, rest, hc, hf, rfl⟩

lemma takeChar_bind {c : Char} (h : p c = true) (f : List Char → Option α) :
    (takeChar p (c :: rest) >>= f) = f rest := by
  rw [takeChar_eq_some_iff.2 ⟨c, h, rfl⟩]
  rfl

end Steps

/-- **The texts that are read are those of the grammar.** -/
theorem Civil.parse_eq_some_iff {s : List Char} {c : Civil} :
    Civil.parse s = some c ↔ c.IsText s := by
  constructor
  · intro h
    unfold Civil.parse at h
    obtain ⟨y, year, s, hy, h₁, rfl⟩ := exists_of_takeNumber_bind h
    obtain ⟨_, s, hdash, h₂, rfl⟩ := exists_of_takeChar_bind h₁
    obtain ⟨mo, month, s, hmo, h₃, rfl⟩ := exists_of_takeNumber_bind h₂
    obtain ⟨_, s, hdash', h₄, rfl⟩ := exists_of_takeChar_bind h₃
    obtain ⟨d, day, s, hd, h₅, rfl⟩ := exists_of_takeNumber_bind h₄
    obtain ⟨t, s, ht, h₆, rfl⟩ := exists_of_takeChar_bind h₅
    obtain ⟨hr, hour, s, hhr, h₇, rfl⟩ := exists_of_takeNumber_bind h₆
    obtain ⟨_, s, hcolon, h₈, rfl⟩ := exists_of_takeChar_bind h₇
    obtain ⟨mi, minute, s, hmi, h₉, rfl⟩ := exists_of_takeNumber_bind h₈
    obtain ⟨_, s, hcolon', h₁₀, rfl⟩ := exists_of_takeChar_bind h₉
    obtain ⟨se, second, s, hse, h₁₁, rfl⟩ := exists_of_takeNumber_bind h₁₀
    obtain ⟨⟨n, s⟩, hn, h₁₂⟩ := Option.bind_eq_some_iff.1 h₁₁
    obtain ⟨fraction, rfl, hf⟩ := exists_of_takeFraction hn
    obtain ⟨⟨o, s⟩, ho, hend⟩ := Option.bind_eq_some_iff.1 h₁₂
    obtain ⟨offset, rfl, hoff⟩ := takeOffset_eq_some_iff.1 ho
    simp only [beq_iff_eq, Bool.or_eq_true, or_assoc, Bool.and_eq_true, List.isEmpty_iff,
      Option.ite_none_right_eq_some, Option.some.injEq] at hdash hdash' ht hcolon hcolon' hend
    obtain ⟨⟨rfl, hvalid⟩, rfl⟩ := hend
    subst hdash hdash' hcolon hcolon'
    rw [List.append_nil]
    exact .intro hy hmo hd ht hhr hmi hse hf hoff hvalid
  · rintro ⟨hy, hmo, hd, ht, hhr, hmi, hse, hf, ho, hvalid⟩
    unfold Civil.parse
    refine (takeNumber_bind hy _).trans <| (takeChar_bind rfl _).trans ?_
    refine (takeNumber_bind hmo _).trans <| (takeChar_bind rfl _).trans ?_
    refine (takeNumber_bind hd _).trans <| (takeChar_bind (by simpa [or_assoc] using ht) _).trans ?_
    refine (takeNumber_bind hhr _).trans <| (takeChar_bind rfl _).trans ?_
    refine (takeNumber_bind hmi _).trans <| (takeChar_bind rfl _).trans ?_
    refine (takeNumber_bind hse _).trans ?_
    have hend := takeOffset_eq_some_iff.2 ⟨_, (List.append_nil _).symm, ho⟩
    simp only [takeFraction_append hf (head_of_isOffset ho), hend, Option.bind_eq_bind,
      Option.bind_some, List.isEmpty_nil, hvalid, Bool.and_self, if_true]

example : Civil.parse "2024-06-01T14:00:00.5+02:00".toList =
    some ⟨2024, 6, 1, 14, 0, 0, 500000000, 7200⟩ := by decide

/-! ### What is spelled is a proper time -/

lemma ofDigitChars_lt {ds : List Char} (h : ∀ c ∈ ds, c.isDigit = true) (v : ℕ) :
    Nat.ofDigitChars 10 ds v < (v + 1) * 10 ^ ds.length := by
  induction ds generalizing v with
  | nil => simp
  | cons c ds ih =>
    obtain ⟨hc, hds⟩ := List.forall_mem_cons.1 h
    have hdigit : c.toNat - '0'.toNat ≤ 9 := by
      simp only [Char.isDigit, Bool.and_eq_true, decide_eq_true_eq, UInt32.le_iff_toNat_le] at hc
      exact Nat.sub_le_of_le_add hc.2
    rw [Nat.ofDigitChars_cons, List.length_cons, Nat.pow_succ', ← Nat.mul_assoc]
    calc Nat.ofDigitChars 10 ds (10 * v + (c.toNat - '0'.toNat))
        < (10 * v + (c.toNat - '0'.toNat) + 1) * 10 ^ ds.length := ih hds _
      _ ≤ (v + 1) * 10 * 10 ^ ds.length := Nat.mul_le_mul_right _ (by omega)

lemma nanos_lt_of_isFraction {n : ℕ} {f : List Char} (h : IsFraction n f) : n < 1000000000 := by
  cases h with
  | whole => decide
  | @point ds hne hds =>
    have hnine : ∀ c ∈ (ds ++ List.replicate 9 '0').take 9, c.isDigit = true := fun c hc => by
      rcases List.mem_append.1 (List.mem_of_mem_take hc) with hc | hc
      · exact hds c hc
      · rw [List.eq_of_mem_replicate hc]
        decide
    have hlen : ((ds ++ List.replicate 9 '0').take 9).length = 9 := by simp
    have := ofDigitChars_lt hnine 0
    rwa [hlen] at this

lemma dvd_of_isOffset {o : ℤ} {t : List Char} (h : IsOffset o t) : 60 ∣ o := by
  cases h <;> omega

/-- What a text spells is a time of the calendar, to the nanosecond, and minutes off. -/
lemma Civil.IsText.proper {c : Civil} {s : List Char} (h : c.IsText s) : c.Proper := by
  obtain ⟨hy, hmo, hd, ht, hhr, hmi, hse, hf, ho, hvalid⟩ := h
  exact ⟨hvalid, nanos_lt_of_isFraction hf, dvd_of_isOffset ho⟩

/-- The text spells the time, white space around it apart. -/
def Spells (a : String) (c : Civil) : Prop := c.IsText (Text.trimChars a.toList)

/-- A text is accepted if it spells a time, and stands for the instant of it. -/
theorem Instant.parse_eq_ok_iff {a : String} {t : Instant} :
    Instant.parse a = .ok t ↔ ∃ c, Spells a c ∧ c.instant = t := by
  unfold Instant.parse Spells
  simp only [← Civil.parse_eq_some_iff]
  cases Civil.parse (Text.trimChars a.toList) with
  | none => simp
  | some c => simp

lemma Spells.proper {a : String} {c : Civil} (h : Spells a c) : c.Proper := Civil.IsText.proper h

lemma Spells.parse {a : String} {c : Civil} (h : Spells a c) : Instant.parse a = .ok c.instant :=
  Instant.parse_eq_ok_iff.2 ⟨c, h, rfl⟩

end Attestation.Time
