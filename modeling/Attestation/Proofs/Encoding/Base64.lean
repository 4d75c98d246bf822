import Attestation.Encoding.Base64
import Attestation.Text.Blank
import Attestation.Text.Bytes
import Mathlib.Tactic.Common

/-!
Base64 is read back to the bytes it was written from, and no other text is read. The text is
free of white space and of dashes.
-/

namespace Attestation.Base64

lemma value?_digit : ∀ n < 64, value? (digit n) = some n := by decide

lemma digit_ne_pad : ∀ n < 64, digit n ≠ '=' := by decide

/-- The three bytes that four digits were made of. -/
lemma decodeFour_digits (a b c : UInt8) :
    decodeFour (digit (a.toNat / 4)) (digit (a.toNat % 4 * 16 + b.toNat / 16))
      (digit (b.toNat % 16 * 4 + c.toNat / 64)) (digit (c.toNat % 64)) = some [a, b, c] := by
  have ha := a.toNat_lt
  have hb := b.toNat_lt
  have hc := c.toNat_lt
  have h1 : a.toNat / 4 * 4 + (a.toNat % 4 * 16 + b.toNat / 16) / 16 = a.toNat := by omega
  have h2 : (a.toNat % 4 * 16 + b.toNat / 16) % 16 * 16 +
      (b.toNat % 16 * 4 + c.toNat / 64) / 4 = b.toNat := by omega
  have h3 : (b.toNat % 16 * 4 + c.toNat / 64) % 4 * 64 + c.toNat % 64 = c.toNat := by omega
  unfold decodeFour
  rw [value?_digit _ (by omega), value?_digit _ (by omega), value?_digit _ (by omega),
    value?_digit _ (by omega)]
  simp only [Option.bind_eq_bind, Option.bind_some, h1, h2, h3, UInt8.ofNat_toNat]
  rfl

lemma decodeThree_digits (a b : UInt8) :
    decodeThree (digit (a.toNat / 4)) (digit (a.toNat % 4 * 16 + b.toNat / 16))
      (digit (b.toNat % 16 * 4)) = some [a, b] := by
  have ha := a.toNat_lt
  have hb := b.toNat_lt
  have h0 : b.toNat % 16 * 4 % 4 = 0 := by omega
  have h1 : a.toNat / 4 * 4 + (a.toNat % 4 * 16 + b.toNat / 16) / 16 = a.toNat := by omega
  have h2 : (a.toNat % 4 * 16 + b.toNat / 16) % 16 * 16 + b.toNat % 16 * 4 / 4 = b.toNat := by
    omega
  unfold decodeThree
  rw [value?_digit _ (by omega), value?_digit _ (by omega), value?_digit _ (by omega)]
  simp only [Option.bind_eq_bind, Option.bind_some, h0, h1, h2, if_true, UInt8.ofNat_toNat]

lemma decodeTwo_digits (a : UInt8) :
    decodeTwo (digit (a.toNat / 4)) (digit (a.toNat % 4 * 16)) = some [a] := by
  have ha := a.toNat_lt
  have h0 : a.toNat % 4 * 16 % 16 = 0 := by omega
  have h1 : a.toNat / 4 * 4 + a.toNat % 4 * 16 / 16 = a.toNat := by omega
  unfold decodeTwo
  rw [value?_digit _ (by omega), value?_digit _ (by omega)]
  simp only [Option.bind_eq_bind, Option.bind_some, h0, h1, if_true, UInt8.ofNat_toNat]

lemma decode_cons_of_ne_pad {d : Char} (hd : d ≠ '=') (a b c : Char) (rest : List Char) :
    decode (a :: b :: c :: d :: rest) =
      (decodeFour a b c d).bind fun bytes => (decode rest).map (bytes ++ ·) := by
  cases rest with
  | nil => cases h : decodeFour a b c d <;> simp [decode, hd, h]
  | cons e rest =>
    rw [decode.eq_3 _ _ _ _ _ (List.cons_ne_nil e rest)]
    simp only [Option.map_eq_bind, Option.bind_eq_bind]
    rfl

/-- **Decoding undoes encoding.** -/
theorem decode_encode (bytes : List UInt8) : decode (encode bytes) = some bytes := by
  induction bytes using encode.induct with
  | case1 => rfl
  | case2 a => simp [encode, decode, decodeTwo_digits]
  | case3 a b =>
    have hb := digit_ne_pad (b.toNat % 16 * 4) (by omega)
    simp [encode, decode, decodeThree_digits, hb]
  | case4 a b c rest ih =>
    have hc := digit_ne_pad (c.toNat % 64) (by omega)
    rw [encode, decode_cons_of_ne_pad hc, decodeFour_digits, ih]
    rfl

/-! ### One text for each sequence of bytes -/

lemma ofNat_of_le {c : Char} {k : ℕ} (h : k ≤ c.toNat) : Char.ofNat (k + (c.toNat - k)) = c := by
  rw [Nat.add_sub_cancel' h, Char.ofNat_toNat]

/-- Only the digit of a value has it. -/
lemma value?_eq_some_iff {c : Char} {n : ℕ} : value? c = some n ↔ n < 64 ∧ c = digit n := by
  have hle (a b : Char) : a ≤ b ↔ a.toNat ≤ b.toNat := Iff.rfl
  constructor
  · intro h
    unfold value? at h
    simp only [hle] at h
    unfold digit
    split_ifs at h with h1 h2 h3 h4 h5 <;> cases h
    · have hlow : 65 ≤ c.toNat := h1.1
      have hhigh : c.toNat ≤ 90 := h1.2
      rw [if_pos (by omega)]
      exact ⟨by omega, (ofNat_of_le hlow).symm⟩
    · have hlow : 97 ≤ c.toNat := h2.1
      have hhigh : c.toNat ≤ 122 := h2.2
      rw [if_neg (by omega), if_pos (by omega)]
      exact ⟨by omega, (ofNat_of_le (by omega)).symm⟩
    · have hlow : 48 ≤ c.toNat := h3.1
      have hhigh : c.toNat ≤ 57 := h3.2
      rw [if_neg (by omega), if_neg (by omega), if_pos (by omega), Nat.add_sub_cancel,
        Char.ofNat_toNat]
      exact ⟨by omega, rfl⟩
    · exact ⟨by decide, h4⟩
    · exact ⟨by decide, h5⟩
  · rintro ⟨hn, rfl⟩
    exact value?_digit n hn

/-- Four values below 64 are the digits of three bytes. -/
lemma encode_of_decodeFour {a b c d : Char} {bytes : List UInt8}
    (h : decodeFour a b c d = some bytes) (rest : List UInt8) :
    encode (bytes ++ rest) = a :: b :: c :: d :: encode rest := by
  unfold decodeFour at h
  simp only [Option.bind_eq_bind, Option.bind_eq_some_iff] at h
  obtain ⟨w, hw, x, hx, y, hy, z, hz, h⟩ := h
  obtain ⟨hw, rfl⟩ := value?_eq_some_iff.1 hw
  obtain ⟨hx, rfl⟩ := value?_eq_some_iff.1 hx
  obtain ⟨hy, rfl⟩ := value?_eq_some_iff.1 hy
  obtain ⟨hz, rfl⟩ := value?_eq_some_iff.1 hz
  cases h
  have h1 : (w * 4 + x / 16) % 2 ^ 8 = w * 4 + x / 16 := Nat.mod_eq_of_lt (by omega)
  have h2 : (x % 16 * 16 + y / 4) % 2 ^ 8 = x % 16 * 16 + y / 4 := Nat.mod_eq_of_lt (by omega)
  have h3 : (y % 4 * 64 + z) % 2 ^ 8 = y % 4 * 64 + z := Nat.mod_eq_of_lt (by omega)
  simp only [List.cons_append, List.nil_append, encode, UInt8.toNat_ofNat', h1, h2, h3]
  congr 4 <;> congr 1 <;> omega

lemma encode_of_decodeThree {a b c : Char} {bytes : List UInt8}
    (h : decodeThree a b c = some bytes) : encode bytes = [a, b, c, '='] := by
  unfold decodeThree at h
  simp only [Option.bind_eq_bind, Option.bind_eq_some_iff] at h
  obtain ⟨w, hw, x, hx, y, hy, h⟩ := h
  obtain ⟨hw, rfl⟩ := value?_eq_some_iff.1 hw
  obtain ⟨hx, rfl⟩ := value?_eq_some_iff.1 hx
  obtain ⟨hy, rfl⟩ := value?_eq_some_iff.1 hy
  split_ifs at h with hunused
  cases h
  have h1 : (w * 4 + x / 16) % 2 ^ 8 = w * 4 + x / 16 := Nat.mod_eq_of_lt (by omega)
  have h2 : (x % 16 * 16 + y / 4) % 2 ^ 8 = x % 16 * 16 + y / 4 := Nat.mod_eq_of_lt (by omega)
  simp only [encode, UInt8.toNat_ofNat', h1, h2]
  congr 3 <;> congr 1 <;> omega

lemma encode_of_decodeTwo {a b : Char} {bytes : List UInt8}
    (h : decodeTwo a b = some bytes) : encode bytes = [a, b, '=', '='] := by
  unfold decodeTwo at h
  simp only [Option.bind_eq_bind, Option.bind_eq_some_iff] at h
  obtain ⟨w, hw, x, hx, h⟩ := h
  obtain ⟨hw, rfl⟩ := value?_eq_some_iff.1 hw
  obtain ⟨hx, rfl⟩ := value?_eq_some_iff.1 hx
  split_ifs at h with hunused
  cases h
  have h1 : (w * 4 + x / 16) % 2 ^ 8 = w * 4 + x / 16 := Nat.mod_eq_of_lt (by omega)
  simp only [encode, UInt8.toNat_ofNat', h1]
  congr 2 <;> congr 1 <;> omega

/-- What is read is what the bytes are written as. -/
lemma encode_of_decode {s : List Char} {bytes : List UInt8} (h : decode s = some bytes) :
    encode bytes = s := by
  induction s using decode.induct generalizing bytes with
  | case1 =>
    cases h
    rfl
  | case2 a b =>
    rw [decode, if_pos rfl, if_pos rfl] at h
    exact encode_of_decodeTwo h
  | case3 a b c hc =>
    rw [decode, if_pos rfl, if_neg hc] at h
    exact encode_of_decodeThree h
  | case4 a b c d hd =>
    rw [decode, if_neg hd] at h
    have hfour := encode_of_decodeFour h []
    rwa [List.append_nil] at hfour
  | case5 a b c d rest hrest ih =>
    rw [decode.eq_3 _ _ _ _ _ hrest] at h
    simp only [Option.bind_eq_bind, Option.bind_eq_some_iff] at h
    obtain ⟨first, hfirst, more, hmore, h⟩ := h
    cases h
    rw [encode_of_decodeFour hfirst, ih hmore]
  | case6 s hnil hfour hmore =>
    rw [decode.eq_4 s hnil hfour hmore] at h
    cases h

/-- **Bytes have one text.** -/
theorem decode_eq_some_iff {s : List Char} {bytes : List UInt8} :
    decode s = some bytes ↔ s = encode bytes := by
  constructor
  · exact fun h => (encode_of_decode h).symm
  · rintro rfl
    exact decode_encode bytes

/-! ### Characters -/

/-- The characters of base64, padding included. -/
def isBase64Char (c : Char) : Bool := (value? c).isSome || c == '='

lemma isBase64Char_digit {n : ℕ} (hn : n < 64) : isBase64Char (digit n) = true := by
  simp [isBase64Char, value?_digit n hn]

lemma isBase64Char_of_mem_encode (bytes : List UInt8) :
    ∀ c ∈ encode bytes, isBase64Char c = true := by
  induction bytes using encode.induct with
  | case1 => simp [encode]
  | case2 a =>
    have ha := a.toNat_lt
    simp only [encode, List.forall_mem_cons, List.not_mem_nil, false_implies, implies_true, and_true]
    exact ⟨isBase64Char_digit (by omega), isBase64Char_digit (by omega), rfl, rfl⟩
  | case3 a b =>
    have ha := a.toNat_lt
    have hb := b.toNat_lt
    simp only [encode, List.forall_mem_cons, List.not_mem_nil, false_implies, implies_true, and_true]
    exact ⟨isBase64Char_digit (by omega), isBase64Char_digit (by omega),
      isBase64Char_digit (by omega), rfl⟩
  | case4 a b c rest ih =>
    have ha := a.toNat_lt
    have hb := b.toNat_lt
    have hc := c.toNat_lt
    simp only [encode, List.forall_mem_cons]
    exact ⟨isBase64Char_digit (by omega), isBase64Char_digit (by omega),
      isBase64Char_digit (by omega), isBase64Char_digit (by omega), ih⟩

lemma toNat_of_isBase64Char {c : Char} (hc : isBase64Char c = true) :
    (65 ≤ c.toNat ∧ c.toNat ≤ 90) ∨ (97 ≤ c.toNat ∧ c.toNat ≤ 122) ∨
      (48 ≤ c.toNat ∧ c.toNat ≤ 57) ∨ c.toNat = 43 ∨ c.toNat = 47 ∨ c.toNat = 61 := by
  have hle (a b : Char) : a ≤ b ↔ a.toNat ≤ b.toNat := Iff.rfl
  unfold isBase64Char value? at hc
  simp only [hle] at hc
  split_ifs at hc with h1 h2 h3 h4 h5
  · exact .inl h1
  · exact .inr (.inl h2)
  · exact .inr (.inr (.inl h3))
  · exact .inr (.inr (.inr (.inl (congrArg Char.toNat h4))))
  · exact .inr (.inr (.inr (.inr (.inl (congrArg Char.toNat h5)))))
  · rw [Option.isSome_none, Bool.false_or, beq_iff_eq] at hc
    exact .inr (.inr (.inr (.inr (.inr (congrArg Char.toNat hc)))))

lemma isSpace_of_isBase64Char {c : Char} (hc : isBase64Char c = true) :
    Text.isSpace c = false := by
  have hrange := toNat_of_isBase64Char hc
  unfold Text.isSpace
  simp
  omega

lemma isAscii_of_isBase64Char {c : Char} (hc : isBase64Char c = true) : Text.isAscii c = true := by
  have hrange := toNat_of_isBase64Char hc
  refine decide_eq_true ?_
  omega

lemma isAsciiSpace_of_isBase64Char {c : Char} (hc : isBase64Char c = true) :
    Text.isAsciiSpace c = false :=
  Bool.eq_false_iff.2 fun h =>
    absurd (Text.isSpace_of_isAsciiSpace h) (Bool.eq_false_iff.1 (isSpace_of_isBase64Char hc))

lemma encode_ne_nil {bytes : List UInt8} (h : bytes ≠ []) : encode bytes ≠ [] := by
  cases bytes using encode.induct <;> simp_all [encode]

end Attestation.Base64
