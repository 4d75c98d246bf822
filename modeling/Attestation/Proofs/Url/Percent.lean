import Attestation.Url.Percent
import Mathlib.Tactic.Common

/-!
What is percent-encoded is decoded to the bytes of the text, provided that the percent sign does
not stand for itself; and the encoded text holds no mark that was to be written out.
-/

namespace Attestation.Percent

variable {keep : Char → Bool}

lemma hexValue?_hexDigit : ∀ n < 16, Text.hexValue? (hexDigit n) = some n := by decide

/-! ### Reading back -/

lemma decode_byte (b : UInt8) (t : List Char) : decode (byte b ++ t) = b :: decode t := by
  have hb := b.toNat_lt
  have hval : 16 * (b.toNat / 16) + b.toNat % 16 = b.toNat := by omega
  rw [byte, List.cons_append, List.cons_append, List.cons_append, List.nil_append, decode,
    hexValue?_hexDigit _ (by omega), hexValue?_hexDigit _ (by omega)]
  simp only [hval, UInt8.ofNat_toNat]

lemma decode_bytes (bs : List UInt8) (t : List Char) :
    decode (bs.flatMap byte ++ t) = bs ++ decode t := by
  induction bs with
  | nil => rfl
  | cons b bs ih => rw [List.flatMap_cons, List.append_assoc, decode_byte, ih, List.cons_append]

lemma decode_cons_of_ne {c : Char} (hc : c ≠ '%') (t : List Char) :
    decode (c :: t) = String.utf8EncodeChar c ++ decode t := by
  rw [decode.eq_def]
  split <;> simp_all

lemma encode_cons (c : Char) (s : List Char) :
    encode keep (c :: s) =
      (if keep c then [c] else (String.utf8EncodeChar c).flatMap byte) ++ encode keep s := by
  rw [encode, List.flatMap_cons, ← encode]

/-- **An encoded text stands for the bytes of the text.** -/
theorem decode_encode (hkeep : keep '%' = false) (s : List Char) :
    decode (encode keep s) = Text.utf8Chars s := by
  induction s with
  | nil => rfl
  | cons c s ih =>
    rw [encode_cons, Text.utf8Chars, List.flatMap_cons, ← Text.utf8Chars]
    by_cases hc : keep c = true
    · have hne : c ≠ '%' := by
        rintro rfl
        simp [hkeep] at hc
      rw [if_pos hc, List.singleton_append, decode_cons_of_ne hne, ih]
    · rw [if_neg hc, decode_bytes, ih]

/-! ### The characters of an encoded text -/

lemma mem_byte {d : Char} {b : UInt8} (h : d ∈ byte b) : d = '%' ∨ (Text.hexValue? d).isSome := by
  have hb := b.toNat_lt
  simp only [byte, List.mem_cons, List.not_mem_nil, or_false] at h
  rcases h with rfl | rfl | rfl
  · exact .inl rfl
  · exact .inr (by rw [hexValue?_hexDigit _ (by omega)]; rfl)
  · exact .inr (by rw [hexValue?_hexDigit _ (by omega)]; rfl)

/-- A mark is in an encoded text only where it stands for itself. -/
lemma mem_of_mem_encode {d : Char} {s : List Char} (hpercent : d ≠ '%')
    (hdigit : Text.hexValue? d = none) (h : d ∈ encode keep s) : d ∈ s ∧ keep d = true := by
  obtain ⟨c, hc, hd⟩ := List.mem_flatMap.1 h
  split at hd
  · rename_i hk
    obtain rfl := List.mem_singleton.1 hd
    exact ⟨hc, hk⟩
  · obtain ⟨b, -, hb⟩ := List.mem_flatMap.1 hd
    rcases mem_byte hb with rfl | hsome
    · exact absurd rfl hpercent
    · simp [hdigit] at hsome

/-- No byte is written as a full stop but the full stop. -/
lemma eq_stop_of_head {c : Char} {bs : List UInt8} (h : String.utf8EncodeChar c = 0x2E :: bs) :
    c = '.' := by
  have hhead : ((String.utf8EncodeChar c).head?.map UInt8.toNat) = some 0x2E := by rw [h]; rfl
  have hval : c.val.toNat = 0x2E := by
    unfold String.utf8EncodeChar at hhead
    dsimp only at hhead
    split_ifs at hhead <;>
      simp only [List.head?_cons, Option.map_some, Option.some.injEq, UInt8.toNat_ofNat',
        Nat.reducePow] at hhead <;> omega
  exact Char.ext (UInt32.toNat_inj.1 hval)

end Attestation.Percent
