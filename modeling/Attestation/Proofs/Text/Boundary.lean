import Attestation.Proofs.Text.Bytes
import Mathlib.Tactic.Common
import Mathlib.Data.List.TakeWhile

/-!
The bytes of a text one by one, and the positions between them.

An ASCII character is a single byte, and no other character has a byte of ASCII in it. So looking
for ASCII among the bytes finds what looking for it among the characters finds, and a text may be
cut before and after each byte of ASCII.
-/

namespace Attestation.Text

/-! ### ASCII among the bytes -/

lemma isAscii_iff {c : Char} : isAscii c = true ↔ c.toNat < 128 := decide_eq_true_iff

lemma utf8EncodeChar_of_ascii {c : Char} (hc : isAscii c = true) :
    String.utf8EncodeChar c = [UInt8.ofNat c.toNat] := by
  have hle : c.val.toNat ≤ 127 := Nat.le_of_lt_succ (isAscii_iff.1 hc)
  rw [String.utf8EncodeChar, if_pos hle]
  rfl

lemma isAscii_of_mem_utf8EncodeChar {c : Char} (hc : isAscii c = false) :
    ∀ b ∈ String.utf8EncodeChar c, isAscii (.ofUInt8 b) = false := by
  have hlt : ¬ c.val.toNat ≤ 127 := fun h => by
    rw [isAscii_iff.2 (Nat.lt_succ_of_le h)] at hc
    cases hc
  intro b hb
  simp only [String.utf8EncodeChar, if_neg hlt] at hb
  obtain ⟨k, rfl, hk⟩ : ∃ k, b = UInt8.ofNat k ∧ 128 ≤ k % 256 := by
    split_ifs at hb
    all_goals
      simp only [List.mem_cons, List.not_mem_nil, or_false] at hb
      rcases hb with rfl | rfl | rfl | rfl <;> exact ⟨_, rfl, by omega⟩
  refine decide_eq_false (Nat.not_lt.2 ?_)
  change 128 ≤ (UInt8.ofNat k).toNat
  rwa [UInt8.toNat_ofNat']

lemma ofUInt8_ofNat {c : Char} (hc : isAscii c = true) : Char.ofUInt8 (.ofNat c.toNat) = c := by
  have hlt := isAscii_iff.1 hc
  refine Char.toNat_inj.1 ?_
  change (UInt8.ofNat c.toNat).toNat = c.toNat
  rw [UInt8.toNat_ofNat']
  omega

lemma ofUInt8_injective {a b : UInt8} (h : Char.ofUInt8 a = Char.ofUInt8 b) : a = b :=
  UInt8.toNat_inj.1 (congrArg Char.toNat h)

/-- The bytes of a text, each as the character of its number. -/
def byteChars (s : List Char) : List Char := (utf8Chars s).map Char.ofUInt8

@[simp] lemma byteChars_nil : byteChars [] = [] := rfl

lemma byteChars_append (s t : List Char) : byteChars (s ++ t) = byteChars s ++ byteChars t := by
  rw [byteChars, utf8Chars, List.flatMap_append, List.map_append]
  rfl

lemma byteChars_cons (c : Char) (s : List Char) :
    byteChars (c :: s) = byteChars [c] ++ byteChars s :=
  byteChars_append [c] s

lemma byteChars_singleton (c : Char) :
    byteChars [c] = (String.utf8EncodeChar c).map Char.ofUInt8 := by
  rw [byteChars, utf8Chars, List.flatMap_singleton]

lemma byteChars_cons_of_ascii {c : Char} (hc : isAscii c = true) (s : List Char) :
    byteChars (c :: s) = c :: byteChars s := by
  rw [byteChars_cons, byteChars_singleton, utf8EncodeChar_of_ascii hc, List.map_singleton,
    ofUInt8_ofNat hc]
  rfl

lemma byteChars_singleton_ne_nil (c : Char) : byteChars [c] ≠ [] := by
  have hlength := String.length_utf8EncodeChar c
  have hsize := c.utf8Size_pos
  rw [byteChars_singleton, ← List.length_pos_iff, List.length_map]
  omega

/-- A character is at least one byte. -/
lemma length_le_length_byteChars (s : List Char) : s.length ≤ (byteChars s).length := by
  induction s with
  | nil => exact le_rfl
  | cons c s ih =>
    have hpos := List.length_pos_iff.2 (byteChars_singleton_ne_nil c)
    rw [byteChars_cons, List.length_append, List.length_cons]
    omega

lemma isAscii_of_mem_byteChars {c : Char} (hc : isAscii c = false) :
    ∀ d ∈ byteChars [c], isAscii d = false := by
  rw [byteChars_singleton]
  exact List.forall_mem_map.2 (isAscii_of_mem_utf8EncodeChar hc)

/-- A kind of ASCII characters that a character is not of is not found among its bytes. -/
lemma not_of_mem_byteChars {p : Char → Bool} (hp : ∀ c, p c = true → isAscii c = true) {c : Char}
    (hc : p c = false) : ∀ d ∈ byteChars [c], p d = false := by
  intro d hd
  cases hascii : isAscii c with
  | true =>
    rw [byteChars_cons_of_ascii hascii, byteChars_nil, List.mem_singleton] at hd
    rw [hd, hc]
  | false =>
    refine Bool.eq_false_iff.2 fun h => ?_
    have hd := isAscii_of_mem_byteChars hascii d hd
    rw [hp d h] at hd
    cases hd

lemma byteChars_of_ascii {s : List Char} (h : ∀ c ∈ s, isAscii c = true) : byteChars s = s := by
  induction s with
  | nil => rfl
  | cons c s ih =>
    obtain ⟨hc, hs⟩ := List.forall_mem_cons.1 h
    rw [byteChars_cons_of_ascii hc, ih hs]

lemma map_ofUInt8_inj {a b : List UInt8} : a.map Char.ofUInt8 = b.map Char.ofUInt8 ↔ a = b :=
  List.map_inj_right fun _ _ => ofUInt8_injective

lemma byteChars_injective {s t : List Char} (h : byteChars s = byteChars t) : s = t :=
  utf8Chars_injective (map_ofUInt8_inj.1 h)

lemma byteChars_eq_nil_iff {s : List Char} : byteChars s = [] ↔ s = [] := by
  constructor
  · exact fun h => byteChars_injective (h.trans byteChars_nil.symm)
  · rintro rfl
    rfl

lemma utf8Chars_of_ascii {bytes : List UInt8} (h : ∀ b ∈ bytes, isAscii (.ofUInt8 b) = true) :
    utf8Chars (bytes.map Char.ofUInt8) = bytes :=
  map_ofUInt8_inj.1 (byteChars_of_ascii (List.forall_mem_map.2 h))

/-- A run of ASCII ends among the bytes where it ends among the characters. -/
lemma takeWhile_byteChars {p : Char → Bool} (hp : ∀ c, p c = true → isAscii c = true)
    (s : List Char) : (byteChars s).takeWhile p = s.takeWhile p ∧
      (byteChars s).dropWhile p = byteChars (s.dropWhile p) := by
  induction s with
  | nil => exact ⟨rfl, rfl⟩
  | cons c s ih =>
    by_cases hascii : isAscii c = true
    · rw [byteChars_cons_of_ascii hascii, List.takeWhile_cons, List.takeWhile_cons,
        List.dropWhile_cons, List.dropWhile_cons]
      split_ifs
      · exact ⟨congrArg _ ih.1, ih.2⟩
      · exact ⟨rfl, (byteChars_cons_of_ascii hascii s).symm⟩
    · -- neither the character nor its first byte is of the kind
      have hc : p c = false := Bool.eq_false_iff.2 fun h => hascii (hp c h)
      obtain ⟨d, ds, hbytes⟩ := List.exists_cons_of_ne_nil (byteChars_singleton_ne_nil c)
      have hd : p d = false := not_of_mem_byteChars hp hc d (hbytes ▸ List.mem_cons_self)
      rw [byteChars_cons, hbytes, List.cons_append]
      simp [hc, hd, byteChars_cons c s, hbytes]

/-! ### Positions -/

/-- A byte of ASCII is a character of the text. -/
lemma exists_of_getElem?_utf8Chars {s : List Char} {i : ℕ} {b : UInt8}
    (h : (utf8Chars s)[i]? = some b) (hb : isAscii (.ofUInt8 b) = true) :
    ∃ before c after, s = before ++ c :: after ∧ (utf8Chars before).length = i ∧
      String.utf8EncodeChar c = [b] := by
  induction s generalizing i with
  | nil => simp [utf8Chars] at h
  | cons c s ih =>
    rw [utf8Chars, List.flatMap_cons] at h
    by_cases hi : i < (String.utf8EncodeChar c).length
    · rw [List.getElem?_append_left hi] at h
      have hc : isAscii c = true := by
        by_contra hc
        rw [isAscii_of_mem_utf8EncodeChar (Bool.eq_false_iff.2 hc) b (List.mem_of_getElem? h)] at hb
        cases hb
      rw [utf8EncodeChar_of_ascii hc] at h hi
      obtain rfl : i = 0 := by simpa using hi
      refine ⟨[], c, s, rfl, rfl, ?_⟩
      rw [utf8EncodeChar_of_ascii hc]
      exact congrArg List.singleton (Option.some.inj h)
    · have hi := Nat.le_of_not_lt hi
      rw [List.getElem?_append_right hi] at h
      obtain ⟨before, d, after, rfl, hlength, hd⟩ := ih h
      refine ⟨c :: before, d, after, rfl, ?_, hd⟩
      rw [utf8Chars, List.flatMap_cons, List.length_append]
      change _ + (utf8Chars before).length = i
      omega

/-- A text may be cut between any two of its characters. -/
lemma isValid_length {s : String} {before after : List Char} (hs : s.toList = before ++ after) :
    String.Pos.Raw.IsValid s ⟨(utf8Chars before).length⟩ := by
  refine String.Pos.Raw.isValid_iff_exists_append.2 ⟨.ofList before, .ofList after, ?_, ?_⟩
  · rw [← String.ofList_append, ← hs, String.ofList_toList]
  · rw [String.rawEndPos, String.utf8ByteSize, toByteArray_ofList]
    rfl

/-- A text may be cut before and after a byte of ASCII. -/
lemma isValid_of_ascii {s : String} {i : ℕ} {b : UInt8} (h : (utf8 s)[i]? = some b)
    (hb : isAscii (.ofUInt8 b) = true) :
    String.Pos.Raw.IsValid s ⟨i⟩ ∧ String.Pos.Raw.IsValid s ⟨i + 1⟩ := by
  obtain ⟨before, c, after, hs, rfl, hc⟩ := exists_of_getElem?_utf8Chars h hb
  refine ⟨isValid_length hs, ?_⟩
  have hnext : (utf8Chars (before ++ [c])).length = (utf8Chars before).length + 1 := by
    rw [utf8Chars, List.flatMap_append, List.flatMap_singleton, hc, List.length_append]
    rfl
  rw [← hnext]
  exact isValid_length (hs.trans (List.append_cons before c after))

lemma le_length_of_isValid {s : String} {i : ℕ} (h : String.Pos.Raw.IsValid s ⟨i⟩) :
    i ≤ (utf8 s).length := by
  have hle := h.le_utf8ByteSize
  rwa [String.utf8ByteSize, toByteArray_eq] at hle

/-- The text between two positions. There is none if one of them is out of range or inside a
character, nor if they are the wrong way round. -/
def cut? (s : String) (i j : ℕ) : Option String :=
  if h : String.Pos.Raw.IsValid s ⟨i⟩ ∧ String.Pos.Raw.IsValid s ⟨j⟩ ∧ i ≤ j then
    some (s.extract (s.pos ⟨i⟩ h.1) (s.pos ⟨j⟩ h.2.1))
  else none

/-- What is cut out has the bytes between the positions. -/
lemma exists_cut? {s : String} {i j : ℕ} (hi : String.Pos.Raw.IsValid s ⟨i⟩)
    (hj : String.Pos.Raw.IsValid s ⟨j⟩) (hle : i ≤ j) :
    ∃ t, cut? s i j = some t ∧ utf8 t = ((utf8 s).drop i).take (j - i) := by
  refine ⟨_, dif_pos ⟨hi, hj, hle⟩, ?_⟩
  have hbytes := String.toByteArray_extract (b := s.pos ⟨i⟩ hi) (e := s.pos ⟨j⟩ hj)
  rw [toByteArray_eq, toByteArray_eq] at hbytes
  have hdata := congrArg (fun a => a.data.toList) hbytes
  simpa [List.extract_eq_take_drop] using hdata

/-- ASCII is cut out as it stands. -/
lemma cut?_of_ascii {s : String} {i : ℕ} {piece rest : List UInt8}
    (hi : String.Pos.Raw.IsValid s ⟨i⟩) (hj : String.Pos.Raw.IsValid s ⟨i + piece.length⟩)
    (hdrop : (utf8 s).drop i = piece ++ rest) (hpiece : ∀ b ∈ piece, isAscii (.ofUInt8 b) = true) :
    cut? s i (i + piece.length) = some (.ofList (piece.map Char.ofUInt8)) := by
  obtain ⟨t, hcut, hbytes⟩ := exists_cut? hi hj (Nat.le_add_right _ _)
  rw [hdrop, Nat.add_sub_cancel_left, List.take_left, ← utf8Chars_of_ascii hpiece] at hbytes
  rw [hcut, ← utf8Chars_injective hbytes, String.ofList_toList]

end Attestation.Text
