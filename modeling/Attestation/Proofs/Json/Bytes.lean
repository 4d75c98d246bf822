import Attestation.Proofs.Json.Extent
import Attestation.Proofs.Json.Reading
import Attestation.Proofs.Text.Boundary

/-!
The bytes of a text are read as the text is.

The grammar is in ASCII, of which the bytes of any other character have none, so each reader takes
from the bytes what it takes from the characters. In a string the bytes are put together to the
characters they encode.
-/

namespace Attestation.Json

open Text (isAscii byteChars byteChars_cons_of_ascii)

/-! ### Strings -/

/-- The characters that do not stand for themselves in a string. -/
def isReserved (c : Char) : Bool := c == '"' || c == '\\' || c.toNat < 0x20

lemma isAscii_of_isReserved {c : Char} (hc : isReserved c = true) : isAscii c = true := by
  simp only [isReserved, Bool.or_eq_true, beq_iff_eq, decide_eq_true_eq] at hc
  rcases hc with (rfl | rfl) | hc
  · rfl
  · rfl
  · exact Text.isAscii_iff.2 (by omega)

lemma takePieces_append {ds : List Char} (hds : ∀ d ∈ ds, isReserved d = false) (s : List Char) :
    takePieces (ds ++ s) = (takePieces s).map fun (ps, rest) => (ds.map .plain ++ ps, rest) := by
  induction ds with
  | nil => simp
  | cons d ds ih =>
    obtain ⟨hd, hds⟩ := List.forall_mem_cons.1 hds
    obtain ⟨⟨hquote, hslash⟩, hlow⟩ : (d ≠ '"' ∧ d ≠ '\\') ∧ ¬ d.toNat < 0x20 := by
      simpa [isReserved] using hd
    rw [List.cons_append, takePieces_plain hquote hslash hlow, ih hds, Option.map_map]
    rfl

namespace Piece

/-- The pieces of the bytes that spell a piece of a text. -/
def inBytes : Piece → List Piece
  | .plain c => (byteChars [c]).map .plain
  | .unit n => [.unit n]

lemma inBytes_of_ascii {c : Char} (hc : isAscii c = true) :
    (Piece.plain c).inBytes = [.plain c] := by
  rw [inBytes, byteChars_cons_of_ascii hc]
  rfl

end Piece

/-- What a reader of a text has left over, in bytes. -/
def restInBytes {α : Type} (x : Option (α × List Char)) : Option (α × List Char) :=
  x.map fun (a, rest) => (a, byteChars rest)

@[simp] lemma restInBytes_none {α : Type} : restInBytes (α := α) none = none := rfl

@[simp] lemma restInBytes_some {α : Type} (a : α) (rest : List Char) :
    restInBytes (some (a, rest)) = some (a, byteChars rest) := rfl

/-- A text starts with a character of ASCII, as its bytes do, or neither does. -/
lemma byteChars_cases (s : List Char) : s = [] ∨
    (∃ c t, isAscii c = true ∧ s = c :: t ∧ byteChars s = c :: byteChars t) ∨
    ∃ c t d u, isAscii c = false ∧ isAscii d = false ∧ s = c :: t ∧ byteChars s = d :: u := by
  cases s with
  | nil => exact .inl rfl
  | cons c t =>
    cases hc : isAscii c with
    | true => exact .inr (.inl ⟨c, t, hc, rfl, byteChars_cons_of_ascii hc t⟩)
    | false =>
      obtain ⟨d, ds, hds⟩ := List.exists_cons_of_ne_nil (Text.byteChars_singleton_ne_nil c)
      have hd := Text.isAscii_of_mem_byteChars hc d (hds ▸ List.mem_cons_self)
      refine .inr (.inr ⟨c, t, d, ds ++ byteChars t, hc, hd, rfl, ?_⟩)
      rw [Text.byteChars_cons, hds, List.cons_append]

lemma bind_restInBytes {α β γ : Type} {x : Option (α × List Char)}
    {f : α × List Char → Option β} {g : α × List Char → Option γ} {p : γ → β}
    (h : ∀ a s, x = some (a, s) → f (a, byteChars s) = (g (a, s)).map p) :
    (restInBytes x).bind f = (x.bind g).map p := by
  cases x with
  | none => rfl
  | some y => exact h y.1 y.2 rfl

lemma hexValue?_of_not_ascii {c : Char} (hc : isAscii c = false) : Text.hexValue? c = none := by
  have hlarge {d : Char} (hd : isAscii d = true) : ¬ c ≤ d := fun hle => by
    have hle : c.toNat ≤ d.toNat := hle
    rw [Text.isAscii_iff] at hd
    rw [Text.isAscii_iff.2 (by omega)] at hc
    cases hc
  rw [Text.hexValue?, if_neg fun h => hlarge rfl h.2, if_neg fun h => hlarge rfl h.2,
    if_neg fun h => hlarge rfl h.2]

/-- A digit of a unit in hexadecimal. -/
def takeHex : List Char → Option (ℕ × List Char)
  | [] => none
  | c :: rest => (Text.hexValue? c).map fun n => (n, rest)

/-- A unit in hexadecimal. -/
def takeUnit (s : List Char) : Option (ℕ × List Char) := do
  let (a, s) ← takeHex s
  let (b, s) ← takeHex s
  let (c, s) ← takeHex s
  let (d, s) ← takeHex s
  return (((a * 16 + b) * 16 + c) * 16 + d, s)

lemma takeHex_suffix {s t : List Char} {n : ℕ} (h : takeHex s = some (n, t)) : t <:+ s := by
  cases s with
  | nil => cases h
  | cons c s =>
    obtain ⟨_, -, heq⟩ := Option.map_eq_some_iff.1 h
    cases heq
    exact List.suffix_cons _ _

lemma takeUnit_suffix {s t : List Char} {n : ℕ} (h : takeUnit s = some (n, t)) : t <:+ s := by
  simp only [takeUnit, Option.bind_eq_bind, Option.bind_eq_some_iff] at h
  obtain ⟨⟨a, s₁⟩, h₁, ⟨b, s₂⟩, h₂, ⟨c, s₃⟩, h₃, ⟨d, s₄⟩, h₄, heq⟩ := h
  cases heq
  exact (takeHex_suffix h₄).trans <| (takeHex_suffix h₃).trans <|
    (takeHex_suffix h₂).trans (takeHex_suffix h₁)

lemma takePieces_unit (s : List Char) : takePieces ('\\' :: 'u' :: s) =
    (takeUnit s).bind fun (n, s) => (takePieces s).map fun (ps, rest) => (.unit n :: ps, rest) := by
  match s with
  | [] => rfl
  | [a] | [a, b] | [a, b, c] => simp [takePieces, takeUnit, takeHex, unescape?, Option.bind_map]
  | a :: b :: c :: d :: s =>
    simp [takePieces, takeUnit, takeHex, Option.bind_assoc, Option.map_eq_bind]

lemma takeHex_byteChars (s : List Char) : takeHex (byteChars s) = restInBytes (takeHex s) := by
  rcases byteChars_cases s with rfl | ⟨c, t, -, rfl, hbytes⟩ | ⟨c, t, d, u, hc, hd, rfl, hbytes⟩
  · rfl
  · rw [hbytes, takeHex, takeHex]
    cases Text.hexValue? c <;> rfl
  · rw [hbytes, takeHex, takeHex, hexValue?_of_not_ascii hc, hexValue?_of_not_ascii hd]
    rfl

lemma takeUnit_byteChars (s : List Char) : takeUnit (byteChars s) = restInBytes (takeUnit s) := by
  unfold takeUnit
  simp only [takeHex_byteChars]
  refine bind_restInBytes fun a s _ => ?_
  simp only [takeHex_byteChars]
  refine bind_restInBytes fun b s _ => ?_
  simp only [takeHex_byteChars]
  refine bind_restInBytes fun c s _ => ?_
  simp only [takeHex_byteChars]
  exact bind_restInBytes fun d s _ => rfl

/-- The piece that a letter after a backslash stands for. -/
lemma takePieces_letter_eq {c : Char} (hc : c ≠ 'u') (s : List Char) : takePieces ('\\' :: c :: s) =
    (unescape? c).bind fun d => (takePieces s).map fun (ps, rest) => (.plain d :: ps, rest) := by
  rw [takePieces.eq_4 _ _ (by simp [hc])]
  simp [Option.map_eq_bind]

lemma isAscii_of_unescape? {c d : Char} (h : unescape? c = some d) :
    isAscii c = true ∧ isAscii d = true := by
  unfold unescape? at h
  split_ifs at h <;> (subst_vars; cases h; exact ⟨rfl, rfl⟩)

lemma takePieces_not_ascii {c : Char} (hc : isAscii c = false) (s : List Char) :
    takePieces ('\\' :: c :: s) = none := by
  have hunit : c ≠ 'u' := by
    rintro rfl
    cases hc
  rw [takePieces_letter_eq hunit]
  cases hd : unescape? c with
  | none => rfl
  | some d =>
    rw [(isAscii_of_unescape? hd).1] at hc
    cases hc

lemma takePieces_control {c : Char} (hquote : c ≠ '"') (hslash : c ≠ '\\') (hlow : c.toNat < 0x20)
    (s : List Char) : takePieces (c :: s) = none := by
  rw [takePieces.eq_def]
  split <;> simp_all

/-- The pieces of a string that ends in the text are taken from its bytes as well. -/
def TakenAlike (s : List Char) : Prop :=
  takePieces (byteChars s) =
    (takePieces s).map fun (ps, rest) => (ps.flatMap Piece.inBytes, byteChars rest)

lemma takenAlike_slash {t : List Char} (ih : ∀ u, u <:+ t → TakenAlike u) :
    TakenAlike ('\\' :: t) := by
  unfold TakenAlike
  rw [byteChars_cons_of_ascii rfl]
  rcases byteChars_cases t with
    rfl | ⟨c, u, hc, rfl, hbytes⟩ | ⟨c, u, d, w, hc, hd, rfl, hbytes⟩
  · rfl
  · rw [hbytes]
    by_cases hunit : c = 'u'
    · subst hunit
      rw [takePieces_unit, takePieces_unit, takeUnit_byteChars]
      refine bind_restInBytes fun n r hr => ?_
      have hr : TakenAlike r := ih r ((takeUnit_suffix hr).trans (List.suffix_cons _ u))
      rw [TakenAlike] at hr
      simp only [hr, Option.map_map]
      rfl
    · have hu : TakenAlike u := ih u (List.suffix_cons c u)
      rw [takePieces_letter_eq hunit, takePieces_letter_eq hunit, hu]
      cases hd : unescape? c with
      | none => rfl
      | some d =>
        have hplain := Piece.inBytes_of_ascii (isAscii_of_unescape? hd).2
        simp only [Option.bind_some, Option.map_map]
        congr 1
        funext x
        simp [hplain]
  · rw [hbytes, takePieces_not_ascii hc, takePieces_not_ascii hd]
    rfl

lemma takenAlike_cons {c : Char} {t : List Char} (hquote : c ≠ '"') (hslash : c ≠ '\\')
    (ht : TakenAlike t) : TakenAlike (c :: t) := by
  unfold TakenAlike at ht ⊢
  by_cases hlow : c.toNat < 0x20
  · rw [byteChars_cons_of_ascii (Text.isAscii_iff.2 (by omega)),
      takePieces_control hquote hslash hlow, takePieces_control hquote hslash hlow]
    rfl
  · have hc : isReserved c = false := by simp [isReserved, hquote, hslash, hlow]
    have hbytes := Text.not_of_mem_byteChars (fun _ => isAscii_of_isReserved) hc
    rw [Text.byteChars_cons, takePieces_plain hquote hslash hlow, takePieces_append hbytes, ht,
      Option.map_map, Option.map_map]
    rfl

/-- **The pieces of a string are taken from the bytes as from the text.** -/
theorem takenAlike (s : List Char) : TakenAlike s := by
  induction hn : s.length using Nat.strong_induction_on generalizing s with
  | _ n ih =>
    subst hn
    match s with
    | [] => rfl
    | c :: t =>
      have htail (u : List Char) (hu : u <:+ t) : TakenAlike u :=
        ih u.length (Nat.lt_succ_of_le hu.length_le) u rfl
      by_cases hquote : c = '"'
      · subst hquote
        rw [TakenAlike, byteChars_cons_of_ascii rfl]
        rfl
      by_cases hslash : c = '\\'
      · exact hslash ▸ takenAlike_slash htail
      · exact takenAlike_cons hquote hslash (htail t List.suffix_rfl)

/-! ### The text of a string -/

lemma toUInt8_ofUInt8 (b : UInt8) : (Char.ofUInt8 b).toUInt8 = b := UInt8.toUInt8_toUInt32 b

lemma joinBytes_append (bytes : List UInt8) (ps : List Piece) :
    joinBytes (bytes.map (fun b => .plain (.ofUInt8 b)) ++ ps) =
      (joinBytes ps).map (bytes ++ ·) := by
  induction bytes with
  | nil => simp
  | cons b bytes ih =>
    rw [joinBytes] at ih ⊢
    rw [List.map_cons, List.cons_append, joinPieces, ih, toUInt8_ofUInt8, Option.map_map]
    rfl

/-- The bytes of a character are no unit. -/
lemma inBytes_ne_unit {ps : List Piece} (h : ∀ n rest, ps = .unit n :: rest → False) :
    ∀ n rest, ps.flatMap Piece.inBytes = .unit n :: rest → False := by
  intro n rest heq
  match ps with
  | [] => cases heq
  | .unit m :: qs => exact h m qs rfl
  | .plain c :: qs =>
    obtain ⟨d, ds, hds⟩ := List.exists_cons_of_ne_nil (Text.byteChars_singleton_ne_nil c)
    rw [List.flatMap_cons, Piece.inBytes, hds] at heq
    cases heq

/-- The bytes of the pieces spell the text of the pieces. -/
lemma joinBytes_inBytes (ps : List Piece) :
    joinBytes (ps.flatMap Piece.inBytes) = (joinChars ps).map Text.utf8Chars := by
  unfold joinChars
  fun_induction joinPieces (fun c => [c]) (fun c => [c]) ps with
  | case1 => rfl
  | case2 c rest ih =>
    have hbytes : (Piece.plain c).inBytes =
        (String.utf8EncodeChar c).map fun b => .plain (.ofUInt8 b) := by
      rw [Piece.inBytes, Text.byteChars_singleton, List.map_map]
      rfl
    rw [List.flatMap_cons, hbytes, joinBytes_append, ih, Option.map_map, Option.map_map]
    rfl
  | case3 h l rest hhigh hlow ih =>
    rw [joinBytes] at ih ⊢
    simp only [List.flatMap_cons, Piece.inBytes, List.singleton_append, joinPieces, hhigh, hlow,
      and_self, if_true, ih, Option.map_map]
    rfl
  | case4 h l rest hhigh hlow =>
    simp [joinBytes, List.flatMap_cons, Piece.inBytes, joinPieces, hhigh, hlow]
  | case5 h l rest hhigh hlow =>
    simp [joinBytes, List.flatMap_cons, Piece.inBytes, joinPieces, hhigh, hlow]
  | case6 h l rest hhigh hlow ih =>
    rw [joinBytes] at ih ⊢
    simp only [List.flatMap_cons, Piece.inBytes, List.singleton_append] at ih ⊢
    rw [joinPieces, if_neg hhigh, if_neg hlow, ih, Option.map_map, Option.map_map]
    rfl
  | case7 h rest hrest hhalf =>
    rw [joinBytes, List.flatMap_cons, Piece.inBytes, List.singleton_append,
      joinPieces.eq_4 _ _ _ _ (inBytes_ne_unit hrest), if_pos hhalf]
    rfl
  | case8 h rest hrest hhalf ih =>
    rw [joinBytes] at ih ⊢
    rw [List.flatMap_cons, Piece.inBytes, List.singleton_append,
      joinPieces.eq_4 _ _ _ _ (inBytes_ne_unit hrest), if_neg hhalf, ih, Option.map_map,
      Option.map_map]
    rfl

lemma bytesText?_inBytes (ps : List Piece) :
    bytesText? (ps.flatMap Piece.inBytes) = charsText? ps := by
  rw [bytesText?, joinBytes_inBytes, charsText?]
  cases joinChars ps with
  | none => rfl
  | some cs =>
    have hbytes := Text.ofUtf8?_utf8 (String.ofList cs)
    rwa [Text.utf8, String.toList_ofList] at hbytes

lemma takeString_byteChars (s : List Char) :
    takeString bytesText? (byteChars s) = restInBytes (takeString charsText? s) := by
  have hpieces : TakenAlike s := takenAlike s
  rw [takeString, hpieces, takeString, restInBytes, Option.map_map, Option.map_map]
  congr 1
  funext x
  simp [bytesText?_inBytes]

/-! ### Numbers and words -/

lemma isAscii_of_isDigit {c : Char} (hc : c.isDigit = true) : isAscii c = true := by
  simp only [Char.isDigit, Bool.and_eq_true, decide_eq_true_eq] at hc
  have hle : c.toNat ≤ 57 := UInt32.le_iff_toNat_le.1 hc.2
  exact Text.isAscii_iff.2 (by omega)

lemma ne_of_not_ascii {c e : Char} (he : isAscii e = true) (hc : isAscii c = false) : c ≠ e := by
  rintro rfl
  rw [he] at hc
  cases hc

/-- What holds beyond ASCII and of the first character of a text holds of its first byte. -/
lemma head?_byteChars {P : Char → Prop} (hP : ∀ c, isAscii c = false → P c) {s : List Char}
    (h : ∀ c ∈ s.head?, P c) : ∀ c ∈ (byteChars s).head?, P c := by
  rcases byteChars_cases s with rfl | ⟨c, t, -, rfl, hbytes⟩ | ⟨c, t, d, u, -, hd, rfl, hbytes⟩
  · exact h
  · simpa [hbytes] using h
  · simpa [hbytes] using hP d hd

lemma takeDigits_byteChars (s : List Char) :
    takeDigits (byteChars s) = restInBytes (takeDigits s) := by
  obtain ⟨htake, hdrop⟩ := Text.takeWhile_byteChars (fun _ => isAscii_of_isDigit) s
  unfold takeDigits
  simp only [htake, hdrop]
  split <;> rfl

lemma takeWhole_byteChars (s : List Char) :
    takeWhole (byteChars s) = restInBytes (takeWhole s) := by
  unfold takeWhole
  rw [takeDigits_byteChars s]
  rcases takeDigits s with _ | ⟨ds, t⟩
  · rfl
  · simp only [restInBytes_some]
    split <;> split <;> simp_all

lemma takePlaces_of_head? {s : List Char} (h : ∀ c ∈ s.head?, c ≠ '.') :
    takePlaces s = some ([], s) := by
  cases s with
  | nil => rfl
  | cons c s => exact takePlaces.eq_2 _ (by simpa using h)

lemma takePlaces_byteChars (s : List Char) :
    takePlaces (byteChars s) = restInBytes (takePlaces s) := by
  by_cases hs : s.head? = some '.'
  · obtain ⟨t, rfl⟩ := List.head?_eq_some_iff.1 hs
    rw [byteChars_cons_of_ascii rfl]
    exact takeDigits_byteChars t
  · have hpoint : ∀ c ∈ s.head?, c ≠ '.' := fun c hc h => hs (h ▸ hc)
    rw [takePlaces_of_head? hpoint,
      takePlaces_of_head? (head?_byteChars (fun _ => ne_of_not_ascii rfl) hpoint)]
    rfl

lemma exponentDigits_byteChars (sign : ℤ) (s : List Char) :
    exponentDigits sign (byteChars s) = restInBytes (exponentDigits sign s) := by
  rw [exponentDigits, takeDigits_byteChars, exponentDigits]
  cases takeDigits s <;> rfl

lemma takeExponent_byteChars (s : List Char) :
    takeExponent (byteChars s) = restInBytes (takeExponent s) := by
  by_cases hnone : ∀ c ∈ s.head?, c ≠ 'e' ∧ c ≠ 'E'
  · have hbytes := head?_byteChars (fun c hc => ⟨ne_of_not_ascii rfl hc, ne_of_not_ascii rfl hc⟩)
      hnone
    rw [takeExponent_unmarked hnone, takeExponent_unmarked hbytes]
    rfl
  · obtain ⟨m, t, rfl, hm⟩ : ∃ m t, s = m :: t ∧ (m = 'e' ∨ m = 'E') := by
      cases s with
      | nil => simp at hnone
      | cons m t => exact ⟨m, t, rfl, by simpa [or_iff_not_imp_left] using hnone⟩
    have hascii : isAscii m = true := by rcases hm with rfl | rfl <;> rfl
    rw [byteChars_cons_of_ascii hascii]
    by_cases hminus : t.head? = some '-'
    · obtain ⟨u, rfl⟩ := List.head?_eq_some_iff.1 hminus
      rw [byteChars_cons_of_ascii rfl, takeExponent_minus hm, takeExponent_minus hm]
      exact exponentDigits_byteChars (-1) u
    by_cases hplus : t.head? = some '+'
    · obtain ⟨u, rfl⟩ := List.head?_eq_some_iff.1 hplus
      rw [byteChars_cons_of_ascii rfl, takeExponent_plus hm, takeExponent_plus hm]
      exact exponentDigits_byteChars 1 u
    · have hsign : ∀ c ∈ t.head?, c ≠ '-' ∧ c ≠ '+' :=
        fun c hc => ⟨fun h => hminus (h ▸ hc), fun h => hplus (h ▸ hc)⟩
      have hbytes := head?_byteChars
        (fun c hc => ⟨ne_of_not_ascii rfl hc, ne_of_not_ascii rfl hc⟩) hsign
      rw [takeExponent_unsigned hm hsign, takeExponent_unsigned hm hbytes]
      exact exponentDigits_byteChars 1 t

lemma takeUnsigned_byteChars (negative : Bool) (s : List Char) :
    takeUnsigned negative (byteChars s) = restInBytes (takeUnsigned negative s) := by
  unfold takeUnsigned
  rw [takeWhole_byteChars]
  refine bind_restInBytes fun whole s _ => ?_
  simp only [takePlaces_byteChars]
  refine bind_restInBytes fun places s _ => ?_
  simp only [takeExponent_byteChars]
  exact bind_restInBytes fun e s _ => rfl

lemma takeLiteral_byteChars (s : List Char) :
    takeLiteral (byteChars s) = restInBytes (takeLiteral s) := by
  by_cases hs : s.head? = some '-'
  · obtain ⟨t, rfl⟩ := List.head?_eq_some_iff.1 hs
    rw [byteChars_cons_of_ascii rfl, takeLiteral_minus, takeLiteral_minus]
    exact takeUnsigned_byteChars true t
  · have hsign : ∀ c ∈ s.head?, c ≠ '-' := fun c hc h => hs (h ▸ hc)
    rw [takeLiteral_unsigned hsign,
      takeLiteral_unsigned (head?_byteChars (fun _ => ne_of_not_ascii rfl) hsign)]
    exact takeUnsigned_byteChars false s

lemma dropWord_eq_some_iff {word s t : List Char} : dropWord word s = some t ↔ s = word ++ t := by
  unfold dropWord
  constructor
  · intro h
    split_ifs at h with hprefix
    obtain ⟨u, rfl⟩ := List.isPrefixOf_iff_prefix.1 hprefix
    rw [List.drop_left] at h
    cases h
    rfl
  · rintro rfl
    rw [if_pos (List.isPrefixOf_iff_prefix.2 (List.prefix_append word t)), List.drop_left]

/-- ASCII at the start of the bytes is at the start of the text. -/
lemma exists_of_byteChars_eq_append {word s u : List Char} (hword : ∀ c ∈ word, isAscii c = true)
    (h : byteChars s = word ++ u) : ∃ t, s = word ++ t ∧ byteChars t = u := by
  induction word generalizing s with
  | nil => exact ⟨s, rfl, h⟩
  | cons c word ih =>
    obtain ⟨hc, hword⟩ := List.forall_mem_cons.1 hword
    have hhead : ¬ ∀ d ∈ s.head?, d ≠ c := fun hne =>
      head?_byteChars (fun _ => ne_of_not_ascii hc) hne c (by simp [h]) rfl
    obtain ⟨s, rfl⟩ : ∃ s', s = c :: s' := by
      cases s with
      | nil => simp at hhead
      | cons d s => exact ⟨s, by simpa using hhead⟩
    rw [byteChars_cons_of_ascii hc, List.cons_append, List.cons.injEq] at h
    obtain ⟨t, rfl, ht⟩ := ih hword h.2
    exact ⟨t, rfl, ht⟩

lemma dropWord_byteChars {word : List Char} (hword : ∀ c ∈ word, isAscii c = true)
    (s : List Char) : dropWord word (byteChars s) = (dropWord word s).map byteChars := by
  ext u
  rw [Option.map_eq_some_iff]
  simp only [dropWord_eq_some_iff]
  constructor
  · exact exists_of_byteChars_eq_append hword
  · rintro ⟨t, rfl, rfl⟩
    rw [Text.byteChars_append, Text.byteChars_of_ascii hword]

/-! ### Values -/

lemma isAscii_of_isGap {c : Char} (hc : isGap c = true) : isAscii c = true := by
  simp only [isGap, Bool.or_eq_true, beq_iff_eq] at hc
  rcases hc with ((rfl | rfl) | rfl) | rfl <;> rfl

lemma skipGap_byteChars (s : List Char) : skipGap (byteChars s) = byteChars (skipGap s) :=
  (Text.takeWhile_byteChars (fun _ => isAscii_of_isGap) s).2

/-- What the readers take from a text of a length, they take from its bytes, if there is enough
fuel for either. -/
structure ReadAlike (f g : ℕ) : Prop where
  value (d : ℕ) {s : List Char} (hf : 2 * s.length < f) (hg : 2 * s.length < g) :
    takeValue bytesText? g d (byteChars s) = restInBytes (takeValue charsText? f d s)
  items (d : ℕ) {s : List Char} (hf : 2 * s.length + 1 < f) (hg : 2 * s.length + 1 < g) :
    takeItems bytesText? g d (byteChars s) = restInBytes (takeItems charsText? f d s)
  members (d : ℕ) {s : List Char} (hf : 2 * s.length + 1 < f) (hg : 2 * s.length + 1 < g) :
    takeMembers bytesText? g d (byteChars s) = restInBytes (takeMembers charsText? f d s)

lemma skipGap_byteChars_of_ascii {c : Char} {s t : List Char} (hc : isAscii c = true)
    (h : skipGap s = c :: t) : skipGap (byteChars s) = c :: byteChars t := by
  rw [skipGap_byteChars, h, byteChars_cons_of_ascii hc]

lemma head?_skipGap_byteChars_ne {c : Char} (hc : isAscii c = true) {s : List Char}
    (h : (skipGap s).head? ≠ some c) : (skipGap (byteChars s)).head? ≠ some c := by
  rw [skipGap_byteChars]
  exact fun hbytes => head?_byteChars (fun _ => ne_of_not_ascii hc)
    (fun d hd hdc => h (hdc ▸ hd)) c hbytes rfl

lemma isAscii_of_mem_openers : ∀ c ∈ openers, isAscii c = true := List.all_eq_true.1 (by decide)

/-- Lists go on in bytes as in the text if what is read behind a comma does. -/
lemma takeMore_byteChars {α : Type} {close : Char} (hclose : isAscii close = true)
    {more more' : List Char → Option (List α × List Char)} {s : List Char}
    (h : ∀ t, t.length < s.length → more' (byteChars t) = restInBytes (more t)) (a : α) :
    takeMore close more' a (byteChars s) = restInBytes (takeMore close more a s) := by
  unfold takeMore
  rw [skipGap_byteChars]
  rcases byteChars_cases (skipGap s) with
    ht | ⟨c, t, -, ht, hbytes⟩ | ⟨c, t, e, u, hc, he, ht, hbytes⟩
  · rw [ht]
    rfl
  · rw [hbytes, ht]
    dsimp only
    split_ifs
    · rw [h t (length_lt_of_skipGap ht)]
      cases more t <;> rfl
    · rfl
    · rfl
  · rw [hbytes, ht]
    simp [ne_of_not_ascii (e := ',') rfl hc, ne_of_not_ascii (e := ',') rfl he,
      ne_of_not_ascii hclose hc, ne_of_not_ascii hclose he]

section Step

variable {f g : ℕ} (ih : ReadAlike f g) (d : ℕ) {s t : List Char}

include ih

lemma takeValue_array_byteChars (h : skipGap s = '[' :: t) (hf : 2 * t.length + 1 < f)
    (hg : 2 * t.length + 1 < g) : takeValue bytesText? (g + 1) d (byteChars s) =
      restInBytes (takeValue charsText? (f + 1) d s) := by
  have hbytes := skipGap_byteChars_of_ascii rfl h
  by_cases hclosed : (skipGap t).head? = some ']'
  · obtain ⟨r, hr⟩ := List.head?_eq_some_iff.1 hclosed
    rw [takeValue_noItems h hr, takeValue_noItems hbytes (skipGap_byteChars_of_ascii rfl hr)]
    rfl
  · have hlen := (skipGap_suffix t).length_le
    rw [takeValue_items h hclosed,
      takeValue_items hbytes (head?_skipGap_byteChars_ne rfl hclosed), skipGap_byteChars,
      ih.items (d + 1) (by omega) (by omega)]
    cases takeItems charsText? f (d + 1) (skipGap t) <;> rfl

lemma takeValue_object_byteChars (h : skipGap s = '\x7b' :: t) (hf : 2 * t.length + 1 < f)
    (hg : 2 * t.length + 1 < g) : takeValue bytesText? (g + 1) d (byteChars s) =
      restInBytes (takeValue charsText? (f + 1) d s) := by
  have hbytes := skipGap_byteChars_of_ascii rfl h
  by_cases hclosed : (skipGap t).head? = some '\x7d'
  · obtain ⟨r, hr⟩ := List.head?_eq_some_iff.1 hclosed
    rw [takeValue_noMembers h hr, takeValue_noMembers hbytes (skipGap_byteChars_of_ascii rfl hr)]
    rfl
  · have hlen := (skipGap_suffix t).length_le
    rw [takeValue_members h hclosed,
      takeValue_members hbytes (head?_skipGap_byteChars_ne rfl hclosed), skipGap_byteChars,
      ih.members (d + 1) (by omega) (by omega)]
    cases takeMembers charsText? f (d + 1) (skipGap t) <;> rfl

lemma takeValue_byteChars (hf : 2 * s.length < f + 1) (hg : 2 * s.length < g + 1) :
    takeValue bytesText? (g + 1) d (byteChars s) =
      restInBytes (takeValue charsText? (f + 1) d s) := by
  by_cases hliteral : ∀ c ∈ (skipGap s).head?, c ∉ openers
  · have hbytes : ∀ c ∈ (skipGap (byteChars s)).head?, c ∉ openers := by
      rw [skipGap_byteChars]
      exact head?_byteChars (fun c hc h => ne_of_not_ascii (isAscii_of_mem_openers c h) hc rfl)
        hliteral
    rw [takeValue_literal hliteral, takeValue_literal hbytes, skipGap_byteChars,
      takeLiteral_byteChars]
    cases takeLiteral (skipGap s) <;> rfl
  obtain ⟨c, t, ht, hc⟩ : ∃ c t, skipGap s = c :: t ∧ c ∈ openers := by
    cases hs : skipGap s with
    | nil => simp [hs] at hliteral
    | cons c t => exact ⟨c, t, rfl, by simpa [hs] using hliteral⟩
  have hlen := length_lt_of_skipGap ht
  have hbytes := skipGap_byteChars_of_ascii (isAscii_of_mem_openers c hc) ht
  have hword {word : List Char} (v : Draft) (hword : word.all isAscii = true) :
      (dropWord word (byteChars t)).map (fun rest => (v, rest)) =
        restInBytes ((dropWord word t).map fun rest => (v, rest)) := by
    rw [dropWord_byteChars (List.all_eq_true.1 hword)]
    cases dropWord word t <;> rfl
  simp only [openers, List.mem_cons, List.not_mem_nil, or_false] at hc
  rcases hc with rfl | rfl | rfl | rfl | rfl | rfl
  · rw [takeValue_quote ht, takeValue_quote hbytes, takeString_byteChars]
    cases takeString charsText? t <;> rfl
  · exact takeValue_array_byteChars ih d ht (by omega) (by omega)
  · exact takeValue_object_byteChars ih d ht (by omega) (by omega)
  all_goals
    rw [takeValue, takeValue, ht, hbytes]
    exact hword _ (by decide)

lemma takeItems_byteChars (hf : 2 * s.length + 1 < f + 1) (hg : 2 * s.length + 1 < g + 1) :
    takeItems bytesText? (g + 1) d (byteChars s) =
      restInBytes (takeItems charsText? (f + 1) d s) := by
  rw [takeItems_eq, takeItems_eq, ih.value d (by omega) (by omega)]
  refine bind_restInBytes fun v r hv => ?_
  have hlen := ((ends charsText? f).value hv).length_le
  exact takeMore_byteChars rfl (fun t ht => ih.items d (by omega) (by omega)) v

lemma takeMember_byteChars (hf : 2 * s.length < f + 1) (hg : 2 * s.length < g + 1) :
    takeMember bytesText? g d (byteChars s) = restInBytes (takeMember charsText? f d s) := by
  unfold takeMember
  by_cases hquote : (skipGap s).head? = some '"'
  · obtain ⟨t, ht⟩ := List.head?_eq_some_iff.1 hquote
    have ht' := length_lt_of_skipGap ht
    simp only [ht, skipGap_byteChars_of_ascii rfl ht, takeString_byteChars]
    refine bind_restInBytes fun k u hk => ?_
    have hu := (takeString_suffix hk).length_le
    dsimp only
    by_cases hcolon : (skipGap u).head? = some ':'
    · obtain ⟨w, hw⟩ := List.head?_eq_some_iff.1 hcolon
      have hw' := length_lt_of_skipGap hw
      simp only [hw, skipGap_byteChars_of_ascii rfl hw, ih.value d (s := w) (by omega) (by omega)]
      cases takeValue charsText? f d w <;> rfl
    · have hcolon' := head?_skipGap_byteChars_ne rfl hcolon
      split
      · simp_all
      · split <;> first | rfl | simp_all
  · have hquote' := head?_skipGap_byteChars_ne rfl hquote
    split
    · simp_all
    · split <;> first | rfl | simp_all

lemma takeMembers_byteChars (hf : 2 * s.length + 1 < f + 1) (hg : 2 * s.length + 1 < g + 1) :
    takeMembers bytesText? (g + 1) d (byteChars s) =
      restInBytes (takeMembers charsText? (f + 1) d s) := by
  rw [takeMembers_eq, takeMembers_eq, takeMember_byteChars ih d (by omega) (by omega)]
  refine bind_restInBytes fun m r hm => ?_
  have hlen := (takeMember_suffix (ends charsText? f) hm).length_le
  exact takeMore_byteChars rfl (fun t ht => ih.members d (by omega) (by omega)) m

end Step

/-- **The bytes of a text are read as the text is**, whatever fuel there is beyond what is used. -/
theorem readAlike (f g : ℕ) : ReadAlike f g := by
  induction f generalizing g with
  | zero => constructor <;> (intro _ _ hf; omega)
  | succ f ih =>
    cases g with
    | zero => constructor <;> (intro _ _ _ hg; omega)
    | succ g =>
      exact ⟨takeValue_byteChars (ih g), takeItems_byteChars (ih g), takeMembers_byteChars (ih g)⟩

/-- **Bytes that spell a text spell out what it does.** -/
theorem parseBytes_utf8 (s : String) : Draft.parseBytes (Text.utf8 s) = Draft.parse s.toList := by
  have hlen := Text.length_le_length_byteChars s.toList
  have hread := (readAlike (2 * s.toList.length + 1) (2 * (byteChars s.toList).length + 1)).value 0
    (s := s.toList) (by omega) (by omega)
  have hbytes : (Text.utf8 s).map Char.ofUInt8 = byteChars s.toList := rfl
  rw [Draft.parseBytes, Draft.parse, Draft.parseWith, Draft.parseWith, hbytes, hread]
  refine (bind_restInBytes (p := id) fun v r _ => ?_).trans (by rw [Option.map_id]; rfl)
  simp [skipGap_byteChars, Text.byteChars_eq_nil_iff]

end Attestation.Json
