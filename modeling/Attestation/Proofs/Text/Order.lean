import Attestation.Text.Bytes
import Mathlib.Data.String.Basic
import Mathlib.Data.UInt
import Mathlib.Tactic.Lemma

/-!
Texts are compared alike by their characters and by the bytes of their UTF-8 form.

The bytes of a character carry its number in digits to the base 64, the highest first, behind
marks that grow with the count of the digits. So the first byte in which two characters differ
tells which one is the lower.
-/

namespace Attestation.Text

lemma ofNat_lt_ofNat {a b : ℕ} (ha : a < 256) (hb : b < 256) :
    (UInt8.ofNat a < UInt8.ofNat b ↔ a < b) ∧ (UInt8.ofNat a = UInt8.ofNat b ↔ a = b) := by
  rw [UInt8.lt_iff_toNat_lt, ← UInt8.toNat_inj, UInt8.toNat_ofNat', UInt8.toNat_ofNat',
    Nat.mod_eq_of_lt ha, Nat.mod_eq_of_lt hb]
  exact ⟨Iff.rfl, Iff.rfl⟩

lemma digits_lt_digits {m n : ℕ} (h : m < n) :
    m / 64 < n / 64 ∨ m / 64 = n / 64 ∧ m % 64 < n % 64 := by
  omega

/-- Numbers of up to 21 bits are compared digit by digit. -/
lemma fourDigits_lt {m n : ℕ} (h : m < n) (hn : n < 0x110000) :
    m / 262144 % 8 < n / 262144 % 8 ∨ m / 262144 % 8 = n / 262144 % 8 ∧
      (m / 4096 % 64 < n / 4096 % 64 ∨ m / 4096 % 64 = n / 4096 % 64 ∧
        (m / 64 % 64 < n / 64 % 64 ∨ m / 64 % 64 = n / 64 % 64 ∧ m % 64 < n % 64)) := by
  have hdiv (v : ℕ) : v / 4096 = v / 64 / 64 ∧ v / 262144 = v / 64 / 64 / 64 := by omega
  rw [(hdiv m).1, (hdiv m).2, (hdiv n).1, (hdiv n).2]
  rcases digits_lt_digits h with h | ⟨h1, h⟩
  · rcases digits_lt_digits h with h | ⟨h2, h⟩
    · rcases digits_lt_digits h with h | ⟨h3, h⟩
      · exact .inl (by omega)
      · exact .inr ⟨by rw [h3], .inl h⟩
    · exact .inr ⟨by rw [h2], .inr ⟨by rw [h2], .inl h⟩⟩
  · exact .inr ⟨by rw [h1], .inr ⟨by rw [h1], .inr ⟨by rw [h1], h⟩⟩⟩

/-- The lower of two characters is told by its bytes, whatever comes after them. -/
lemma utf8EncodeChar_append_lt {c d : Char} (h : c < d) (s t : List UInt8) :
    String.utf8EncodeChar c ++ s < String.utf8EncodeChar d ++ t := by
  have hc : c.val.toNat < d.val.toNat := h
  have hd : d.val.toNat < 0x110000 := by
    rcases d.valid with h | ⟨-, h⟩
    · exact Nat.lt_trans h (by decide)
    · exact h
  unfold String.utf8EncodeChar
  generalize c.val.toNat = m at hc
  generalize d.val.toNat = n at hc hd
  have hdigits := fourDigits_lt hc hd
  dsimp only
  -- one case for each pair of lengths that the two encodings can have
  split_ifs <;>
    simp (disch := omega) only [List.cons_append, List.nil_append, List.cons_lt_cons_iff,
      ofNat_lt_ofNat] <;> omega

lemma utf8Chars_lt {s t : List Char} (h : s < t) : utf8Chars s < utf8Chars t := by
  induction s generalizing t with
  | nil =>
    cases t with
    | nil => exact absurd h (List.lt_irrefl [])
    | cons d t =>
      obtain ⟨b, bs, hb⟩ := List.exists_cons_of_ne_nil (String.utf8EncodeChar_ne_nil (c := d))
      have hcons : utf8Chars (d :: t) = b :: (bs ++ utf8Chars t) := by
        rw [utf8Chars, List.flatMap_cons, hb, List.cons_append]
        rfl
      rw [hcons]
      exact List.nil_lt_cons _ _
  | cons c s ih =>
    cases t with
    | nil => exact absurd h (List.not_lt_nil _)
    | cons d t =>
      rcases List.cons_lt_cons_iff.1 h with hcd | ⟨rfl, hst⟩
      · exact utf8EncodeChar_append_lt hcd _ _
      · exact List.append_left_lt (ih hst)

/-- **The order of texts is the order of their bytes.** -/
theorem utf8_lt_utf8_iff {s t : String} : utf8 s < utf8 t ↔ s < t := by
  rw [String.lt_iff_toList_lt]
  refine ⟨fun h => ?_, utf8Chars_lt⟩
  by_contra hst
  rcases lt_or_eq_of_le (not_lt.1 hst) with hts | hts
  · exact List.lt_asymm h (utf8Chars_lt hts)
  · rw [utf8, utf8, hts] at h
    exact List.lt_irrefl _ h

/-- What stands before two texts makes no difference to their order. -/
lemma append_lt_append_iff (before : String) {s t : String} :
    before ++ s < before ++ t ↔ s < t := by
  rw [String.lt_iff_toList_lt, String.lt_iff_toList_lt, String.toList_append,
    String.toList_append]
  induction before.toList with
  | nil => rfl
  | cons c cs ih =>
    rw [List.cons_append, List.cons_append, List.cons_lt_cons_iff, ih]
    simp

end Attestation.Text
