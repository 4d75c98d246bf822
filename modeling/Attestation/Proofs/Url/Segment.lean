import Attestation.Proofs.Url.Path

/-!
How a text is written as a segment of a path: what becomes of dots, of characters that addresses
drop, and of drives at the root of files.
-/

namespace Attestation.Url

/-! ### Segments that are encoded as a whole -/

section Encoding

variable {keep : Char → Bool}

lemma encode_eq_nil {s : List Char} : Percent.encode keep s = [] ↔ s = [] := by
  cases s with
  | nil => simp [Percent.encode]
  | cons c s =>
    rw [Percent.encode_cons]
    obtain ⟨b, bs, hb⟩ := List.exists_cons_of_ne_nil (String.utf8EncodeChar_ne_nil (c := c))
    split <;> simp [hb, Percent.byte]

/-- No byte is written as a dot but that of the dot. -/
lemma dropDot_byte {b : UInt8} (h : b ≠ 0x2E) (t : List Char) :
    dropDot (Percent.byte b ++ t) = none := by
  have hb := b.toNat_lt
  have htwo : ∀ n < 16, Percent.hexDigit n = '2' → n = 2 := by decide
  have hletter : ∀ n < 16, Percent.hexDigit n = 'e' ∨ Percent.hexDigit n = 'E' → n = 14 := by decide
  by_cases h1 : Percent.hexDigit (b.toNat / 16) = '2'
  · have h2 : ¬ (Percent.hexDigit (b.toNat % 16) = 'e' ∨
        Percent.hexDigit (b.toNat % 16) = 'E') := by
      intro h2
      have hhigh := htwo _ (by omega) h1
      have hlow := hletter _ (by omega) h2
      exact h (UInt8.toNat_inj.1 (show b.toNat = 46 by omega))
    simp [Percent.byte, dropDot, h1, h2]
  · simp [Percent.byte, dropDot, h1]

lemma dropDot_encode_stop (hstop : keep '.' = true) (s : List Char) :
    dropDot (Percent.encode keep ('.' :: s)) = some (Percent.encode keep s) := by
  rw [Percent.encode_cons, if_pos hstop]
  rfl

/-- No other character is written as a dot. -/
lemma dropDot_encode_of_ne (hpercent : keep '%' = false) {c : Char} (hc : c ≠ '.')
    (s : List Char) : dropDot (Percent.encode keep (c :: s)) = none := by
  rw [Percent.encode_cons]
  split
  · rename_i hk
    have hne : c ≠ '%' := by
      rintro rfl
      simp [hpercent] at hk
    rw [List.singleton_append]
    unfold dropDot
    split <;> simp_all
  · obtain ⟨b, bs, hb⟩ := List.exists_cons_of_ne_nil (String.utf8EncodeChar_ne_nil (c := c))
    rw [hb, List.flatMap_cons, List.append_assoc]
    refine dropDot_byte (fun heq => hc ?_) _
    rw [heq] at hb
    exact Percent.eq_stop_of_head hb

lemma isDot_encode (hstop : keep '.' = true) (hpercent : keep '%' = false) {s : List Char} :
    isDot (Percent.encode keep s) = true ↔ s = ['.'] := by
  unfold isDot
  cases s with
  | nil => simp [Percent.encode, dropDot]
  | cons c s =>
    by_cases hc : c = '.'
    · subst hc
      simp [dropDot_encode_stop hstop, encode_eq_nil]
    · simp [dropDot_encode_of_ne hpercent hc, hc]

lemma isDoubleDot_encode (hstop : keep '.' = true) (hpercent : keep '%' = false) {s : List Char} :
    isDoubleDot (Percent.encode keep s) = true ↔ s = ['.', '.'] := by
  unfold isDoubleDot
  cases s with
  | nil => simp [Percent.encode, dropDot]
  | cons c s =>
    by_cases hc : c = '.'
    · subst hc
      have hdot := isDot_encode hstop hpercent (s := s)
      rw [isDot] at hdot
      rw [dropDot_encode_stop hstop, Option.bind_some, hdot]
      simp
    · simp [dropDot_encode_of_ne hpercent hc, hc]

end Encoding

/-! ### Characters that are dropped -/

lemma kept_of_whole {s : List Char} (h : ∀ c ∈ s, isDropped c = false) : kept s = s :=
  List.filter_eq_self.2 fun c hc => by simp [h c hc]

lemma length_kept_lt {s : List Char} (h : ¬ ∀ c ∈ s, isDropped c = false) :
    (kept s).length < s.length := by
  rw [kept, List.length_filter_lt_length_iff_exists]
  simpa using h

lemma afterKept_subset (s : List Char) : afterKept s ⊆ s :=
  ((List.drop_sublist 1 _).trans (List.dropWhile_sublist _)).subset

/-! ### What stands for itself in a segment -/

section Rooted

variable {special : Bool} {keep : Char → Bool} {s : List Char}

lemma inSegment_of_isAlpha {c : Char} (h : c.isAlpha = true) :
    Percent.inSegment special c = true := by
  have hascii : ∀ special, ∀ n < 128, (Char.ofNat n).isAlpha = true →
      Percent.inSegment special (Char.ofNat n) = true := by decide
  have hc : c.toNat < 128 := by
    rcases Bool.or_eq_true_iff.1 h with hupper | hlower
    · have hval : c.val ≤ 'Z'.val := (of_decide_eq_true hupper).2
      exact lt_of_le_of_lt (UInt32.le_iff_toNat_le.1 hval) (by decide)
    · have hval : c.val ≤ 'z'.val := of_decide_eq_true (Bool.and_eq_true_iff.1 hlower).2
      exact lt_of_le_of_lt (UInt32.le_iff_toNat_le.1 hval) (by decide)
  have h' := hascii special c.toNat hc
  rw [Char.ofNat_toNat] at h'
  exact h' h

lemma inSegment_slash : Percent.inSegment special '/' = false := by cases special <;> decide

lemma inSegment_percent : Percent.inSegment special '%' = false := by cases special <;> decide

lemma inSegment_stop : Percent.inSegment special '.' = true := by cases special <;> decide

lemma inSegment_colon : Percent.inSegment special ':' = true := by cases special <;> decide

/-! ### Below the root of files -/

/-- A text without dropped characters is one segment, unless it is a drive with a bar. -/
lemma rooted_of_whole (hletter : ∀ c : Char, c.isAlpha = true → keep c = true)
    (hcolon : keep ':' = true) (hwhole : ∀ c ∈ s, isDropped c = false)
    (hbar : ∀ letter : Char, letter.isAlpha = true → s ≠ [letter, '|']) :
    rooted keep s = [Percent.encode keep s] := by
  have hapart : (afterKept (afterKept s)).head?.any isDropped = false := by
    refine (Option.any_eq_false _ _).2 fun c hc => ?_
    have hmem := afterKept_subset _ (afterKept_subset _ (List.mem_of_mem_head? hc))
    exact hwhole c hmem
  unfold rooted
  dsimp only
  rw [kept_of_whole hwhole, hapart]
  split
  · rename_i c mark
    split
    · rename_i hdrive
      simp only [isDrive, Bool.and_eq_true, Bool.or_eq_true, beq_iff_eq] at hdrive
      obtain ⟨hc, rfl | rfl⟩ := hdrive
      · simp [Percent.encode, hletter c hc, hcolon]
      · exact absurd rfl (hbar c hc)
    · rfl
  · simp
  · rfl

lemma rooted_drive {letter : Char} (h : letter.isAlpha = true) :
    rooted keep [letter, '|'] = [[letter, ':']] := by
  have hwhole : ∀ c ∈ [letter, '|'], isDropped c = false := by
    have hne : letter ≠ '\t' ∧ letter ≠ '\n' ∧ letter ≠ '\r' := by
      refine ⟨?_, ?_, ?_⟩ <;> rintro rfl <;> simp at h
    simp [isDropped, hne]
  unfold rooted
  dsimp only
  rw [kept_of_whole hwhole]
  simp [isDrive, h]

/-- A text without dropped characters is one segment. -/
lemma exists_rooted_eq_singleton (hwhole : ∀ c ∈ s, isDropped c = false) :
    ∃ x, rooted (Percent.inSegment special) s = [x] := by
  by_cases hbar : ∀ letter : Char, letter.isAlpha = true → s ≠ [letter, '|']
  · exact ⟨_, rooted_of_whole (fun c hc => inSegment_of_isAlpha hc) inSegment_colon hwhole hbar⟩
  · push Not at hbar
    obtain ⟨letter, hletter, rfl⟩ := hbar
    exact ⟨_, rooted_drive hletter⟩

lemma decode_drive {c : Char} (hc : c.isAlpha = true) :
    Percent.decode [c, ':'] = Text.utf8Chars [c, ':'] := by
  have hne : c ≠ '%' := by
    rintro rfl
    simp at hc
  rw [Percent.decode_cons_of_ne hne, Percent.decode_cons_of_ne (by decide)]
  rfl

/-- Whatever is dropped, no segment stands for more than what is kept. -/
lemma exists_getLast?_rooted (hpercent : keep '%' = false) (s : List Char) :
    ∃ last t, (rooted keep s).getLast? = some last ∧
      Percent.decode last = Text.utf8Chars t ∧ t.length ≤ (kept s).length := by
  have whole : Percent.decode (Percent.encode keep (kept s)) = Text.utf8Chars (kept s) :=
    Percent.decode_encode hpercent _
  unfold rooted
  dsimp only
  split
  · rename_i c mark heq
    split
    · rename_i hdrive
      simp only [isDrive, Bool.and_eq_true] at hdrive
      exact ⟨[c, ':'], [c, ':'], rfl, decode_drive hdrive.1, by simp [heq]⟩
    · exact ⟨_, _, rfl, heq ▸ whole, Nat.le_refl _⟩
  · rename_i c rest _ heq
    split
    · exact ⟨_, rest, rfl, Percent.decode_encode hpercent _, by simp [heq]; omega⟩
    · exact ⟨_, _, rfl, heq ▸ whole, Nat.le_refl _⟩
  · exact ⟨_, _, rfl, whole, Nat.le_refl _⟩

end Rooted

end Attestation.Url
