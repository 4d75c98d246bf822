import Attestation.Json.Parser
import Attestation.Json.Printer
import Attestation.Proofs.Numeral.Text

/-!
The compact text of a value is prefix-free: what follows it can be told from it, as soon as it
does not go on with a character of a number. So two values never share a text.
-/

namespace Attestation.Json

/-! ### Strings -/

lemma hexValue?_hexDigit : ∀ n < 16, Text.hexValue? (hexDigit n) = some n := by decide

lemma joinPieces_unit {α : Type} (plain escaped : Char → List α) {n : ℕ} (hn : n < 0xD800)
    (ps : List Piece) : joinPieces plain escaped (.unit n :: ps) =
      (joinPieces plain escaped ps).map (escaped (Char.ofNat n) ++ ·) := by
  have h1 : ¬ (0xD800 ≤ n ∧ n < 0xDC00) := by omega
  have h2 : ¬ (0xDC00 ≤ n ∧ n < 0xE000) := by omega
  have h3 : ¬ (0xD800 ≤ n ∧ n < 0xE000) := by omega
  match ps with
  | [] => simp [joinPieces, h3]
  | .plain c :: ps => simp [joinPieces, h3]
  | .unit l :: ps => simp [joinPieces, h1, h2]

lemma takePieces_plain {c : Char} (h1 : c ≠ '"') (h2 : c ≠ '\\') (h3 : ¬ c.toNat < 0x20)
    (s : List Char) :
    takePieces (c :: s) = (takePieces s).map fun (ps, rest) => (.plain c :: ps, rest) := by
  rw [takePieces.eq_def]
  split <;> simp_all [Option.map_eq_bind]

lemma takePieces_letter {c d : Char} (hu : c ≠ 'u') (hd : unescape? c = some d) (s : List Char) :
    takePieces ('\\' :: c :: s) = (takePieces s).map fun (ps, rest) => (.plain d :: ps, rest) := by
  rw [takePieces.eq_4 _ _ (by simp [hu]), hd]
  simp [Option.map_eq_bind]

lemma takePieces_hex {n : ℕ} (hn : n < 256) (s : List Char) :
    takePieces ('\\' :: 'u' :: '0' :: '0' :: hexDigit (n / 16) :: hexDigit (n % 16) :: s)
      = (takePieces s).map fun (ps, rest) => (.unit n :: ps, rest) := by
  have h0 : Text.hexValue? '0' = some 0 := by decide
  have h1 := hexValue?_hexDigit (n / 16) (by omega)
  have h2 := hexValue?_hexDigit (n % 16) (by omega)
  have hval : n / 16 * 16 + n % 16 = n := by omega
  simp [takePieces, h0, h1, h2, hval, Option.map_eq_bind]

/-- An escaped character is read as one piece, which stands for it. -/
lemma takePieces_escape (c : Char) : ∃ p : Piece,
    (∀ s, takePieces (escape c ++ s) = (takePieces s).map fun (ps, rest) => (p :: ps, rest)) ∧
    ∀ ps, joinChars (p :: ps) = (joinChars ps).map (c :: ·) := by
  have letter {d : Char} (hd : d ≠ 'u') (h : unescape? d = some c) : ∃ p : Piece,
      (∀ s, takePieces (['\\', d] ++ s) =
        (takePieces s).map fun (ps, rest) => (p :: ps, rest)) ∧
      ∀ ps, joinChars (p :: ps) = (joinChars ps).map (c :: ·) :=
    ⟨.plain c, takePieces_letter hd h, fun _ => rfl⟩
  unfold escape
  split_ifs with h h h h h h h h
  · exact letter (by decide) (by rw [h]; decide)
  · exact letter (by decide) (by rw [h]; decide)
  · exact letter (by decide) (by rw [h]; decide)
  · exact letter (by decide) (by rw [h]; decide)
  · exact letter (by decide) (by rw [h]; decide)
  · exact letter (by decide) (by rw [h]; decide)
  · exact letter (by decide) (by rw [h]; decide)
  · refine ⟨.unit c.toNat, takePieces_hex (by omega), fun ps => ?_⟩
    rw [joinChars, joinPieces_unit _ _ (by omega), Char.ofNat_toNat]
    rfl
  · exact ⟨.plain c, takePieces_plain ‹_› ‹_› h, fun _ => rfl⟩

/-- **A string is read back from its escaped characters, up to the quote that closes it.** -/
theorem takeString_escaped (s : String) (rest : List Char) :
    takeString charsText? (s.toList.flatMap escape ++ '"' :: rest) = some (some s, rest) := by
  have hpieces (cs : List Char) : ∃ ps, joinChars ps = some cs ∧
      takePieces (cs.flatMap escape ++ '"' :: rest) = some (ps, rest) := by
    induction cs with
    | nil => exact ⟨[], rfl, rfl⟩
    | cons c cs ih =>
      obtain ⟨ps, hjoin, htake⟩ := ih
      obtain ⟨p, hp, hjoin'⟩ := takePieces_escape c
      refine ⟨p :: ps, ?_, ?_⟩
      · rw [hjoin', hjoin]
        rfl
      · rw [List.flatMap_cons, List.append_assoc, hp, htake]
        rfl
  obtain ⟨ps, hjoin, htake⟩ := hpieces s.toList
  simp [takeString, charsText?, htake, hjoin]

lemma quote_append (s : String) (r : List Char) :
    quote s ++ r = '"' :: (s.toList.flatMap escape ++ '"' :: r) := by
  simp [quote, quoteChars]

lemma quote_append_inj {s t : String} {r r' : List Char} (h : quote s ++ r = quote t ++ r') :
    s = t ∧ r = r' := by
  rw [quote_append, quote_append, List.cons.injEq] at h
  have hs := takeString_escaped s r
  rw [h.2, takeString_escaped t r'] at hs
  simp_all

/-! ### Numbers -/

open Numeral (isNumberChar isNumberChar_of_isDigit)

lemma isNumberChar_of_mem_toDigits {n : ℕ} : ∀ c ∈ Nat.toDigits 10 n, isNumberChar c = true :=
  fun c hc => isNumberChar_of_isDigit (Numeral.all_isDigit_toDigits n c hc)

lemma toDigits_injective {m n : ℕ} (h : Nat.toDigits 10 m = Nat.toDigits 10 n) : m = n := by
  rw [← Numeral.natOfDigits_toDigits m, h, Numeral.natOfDigits_toDigits]

namespace Number

lemma isNumberChar_of_mem (n : Number) : ∀ c ∈ n.chars, isNumberChar c = true := by
  cases n with
  | natural n => exact isNumberChar_of_mem_toDigits
  | negSucc n => exact List.forall_mem_cons.2 ⟨rfl, isNumberChar_of_mem_toDigits⟩
  | real x hx => exact x.isNumberChar_of_mem_text

lemma chars_ne_nil (n : Number) : n.chars ≠ [] := by
  cases n with
  | natural n => exact Nat.toDigits_ne_nil
  | negSucc n => exact List.cons_ne_nil _ _
  | real x hx => exact x.point_or_mark_mem_text.elim List.ne_nil_of_mem List.ne_nil_of_mem

/-- Whole numbers have no point and no exponent. -/
lemma not_mem_toDigits {n : ℕ} {c : Char} (hc : c = '.' ∨ c = 'e') : c ∉ Nat.toDigits 10 n := by
  intro h
  have hdigit := Numeral.all_isDigit_toDigits n c h
  rcases hc with rfl | rfl <;> simp at hdigit

lemma chars_ne_real_of_whole {l : List Char} {x : Numeral.Double} {hx : x.isFinite = true}
    (hpoint : '.' ∉ l) (hmark : 'e' ∉ l) : l ≠ (real x hx).chars := by
  rintro rfl
  exact x.point_or_mark_mem_text.elim hpoint hmark

/-- **Numbers of one kind or of two never share a text.** -/
theorem chars_injective {m n : Number} (h : m.chars = n.chars) : m = n := by
  have natural_ne (k : UInt64) (x : Numeral.Double) (hx) : (natural k).chars ≠ (real x hx).chars :=
    chars_ne_real_of_whole (not_mem_toDigits (.inl rfl)) (not_mem_toDigits (.inr rfl))
  have negSucc_ne (k) (x : Numeral.Double) (hx) : (negSucc k).chars ≠ (real x hx).chars :=
    chars_ne_real_of_whole (by simp [chars, not_mem_toDigits]) (by simp [chars, not_mem_toDigits])
  have sign_ne (j k) : (natural j).chars ≠ (negSucc k).chars := by
    intro heq
    have hsign : '-' ∈ (natural j).chars := heq ▸ List.mem_cons_self
    have hdigit := Numeral.all_isDigit_toDigits j.toNat '-' hsign
    simp at hdigit
  cases m with
  | natural a =>
    cases n with
    | natural b => exact congrArg natural (UInt64.toNat_inj.1 (toDigits_injective h))
    | negSucc b => exact absurd h (sign_ne a b)
    | real y hy => exact absurd h (natural_ne a y hy)
  | negSucc a =>
    cases n with
    | natural b => exact absurd h.symm (sign_ne b a)
    | negSucc b =>
      have := toDigits_injective (List.cons.inj h).2
      exact congrArg negSucc (Fin.ext (by omega))
    | real y hy => exact absurd h (negSucc_ne a y hy)
  | real x hx =>
    cases n with
    | natural b => exact absurd h.symm (natural_ne b x hx)
    | negSucc b => exact absurd h.symm (negSucc_ne b x hx)
    | real y hy =>
      obtain rfl := Numeral.Double.text_injective hx hy h
      rfl

end Number

/-! ### Values -/

/-- What may follow the text of a number: nothing that would go on with it. -/
def Stops (r : List Char) : Prop := ∀ c ∈ r.head?, isNumberChar c = false

lemma stops_nil : Stops [] := by simp [Stops]

lemma stops_cons {c : Char} (hc : isNumberChar c = false) (r : List Char) : Stops (c :: r) := by
  simpa [Stops] using hc

lemma Number.chars_append_inj {m n : Number} {r s : List Char} (hr : Stops r) (hs : Stops s)
    (h : m.chars ++ r = n.chars ++ s) : m = n ∧ r = s := by
  obtain ⟨hm, hr⟩ := Text.takeWhile_run m.isNumberChar_of_mem hr
  obtain ⟨hn, hs⟩ := Text.takeWhile_run n.isNumberChar_of_mem hs
  rw [h] at hm hr
  exact ⟨Number.chars_injective (hm.symm.trans hn), hr.symm.trans hs⟩

/-! ### Lists of pieces -/

lemma commaSep_cons (p : List Char) (ps : List (List Char)) :
    commaSep (p :: ps) = p ++ ps.flatMap (',' :: ·) := by
  induction ps generalizing p with
  | nil => simp [commaSep]
  | cons q ps ih => rw [commaSep, ih, List.flatMap_cons, List.cons_append]

variable {α : Type} {f : α → List Char} {close : Char}

/-- Each piece is told from what follows it. -/
def PrefixFree (f : α → List Char) (a : α) : Prop :=
  ∀ b r s, Stops r → Stops s → f a ++ r = f b ++ s → a = b ∧ r = s

lemma stops_pieces (hclose : isNumberChar close = false) (ps : List (List Char)) (r : List Char) :
    Stops (ps.flatMap (',' :: ·) ++ close :: r) := by
  cases ps with
  | nil => exact stops_cons hclose r
  | cons p ps => exact stops_cons rfl _

lemma pieces_append_inj (hclose : isNumberChar close = false) (hcomma : close ≠ ',')
    {as : List α} (hf : ∀ a ∈ as, PrefixFree f a) {bs : List α} {r s : List Char}
    (h : (as.map f).flatMap (',' :: ·) ++ close :: r = (bs.map f).flatMap (',' :: ·) ++ close :: s) :
    as = bs ∧ r = s := by
  induction as generalizing bs with
  | nil =>
    cases bs with
    | nil => simpa using h
    | cons b bs => exact absurd (List.cons.inj h).1 hcomma
  | cons a as ih =>
    cases bs with
    | nil => exact absurd (List.cons.inj h).1.symm hcomma
    | cons b bs =>
      simp only [List.map_cons, List.flatMap_cons, List.cons_append, List.append_assoc,
        List.cons.injEq, true_and] at h
      obtain ⟨rfl, htail⟩ := hf a List.mem_cons_self b _ _ (stops_pieces hclose _ _)
        (stops_pieces hclose _ _) h
      obtain ⟨rfl, rfl⟩ := ih (fun a ha => hf a (List.mem_cons_of_mem _ ha)) htail
      exact ⟨rfl, rfl⟩

/-- Pieces between commas are told from each other when no piece opens with the closing mark. -/
lemma commaSep_append_inj (hclose : isNumberChar close = false) (hcomma : close ≠ ',')
    (hopen : ∀ a r s, f a ++ r ≠ close :: s) {as : List α} (hf : ∀ a ∈ as, PrefixFree f a)
    {bs : List α} {r s : List Char}
    (h : commaSep (as.map f) ++ close :: r = commaSep (bs.map f) ++ close :: s) :
    as = bs ∧ r = s := by
  cases as with
  | nil =>
    cases bs with
    | nil => simpa [commaSep] using h
    | cons b bs =>
      rw [List.map_cons, commaSep_cons, List.append_assoc] at h
      exact absurd h.symm (hopen b _ _)
  | cons a as =>
    cases bs with
    | nil =>
      rw [List.map_cons, commaSep_cons, List.append_assoc] at h
      exact absurd h (hopen a _ _)
    | cons b bs =>
      rw [List.map_cons, List.map_cons, commaSep_cons, commaSep_cons, List.append_assoc,
        List.append_assoc] at h
      obtain ⟨rfl, htail⟩ := hf a List.mem_cons_self b _ _ (stops_pieces hclose _ _)
        (stops_pieces hclose _ _) h
      obtain ⟨rfl, rfl⟩ := pieces_append_inj hclose hcomma
        (fun a ha => hf a (List.mem_cons_of_mem _ ha)) htail
      exact ⟨rfl, rfl⟩

/-! ### Values -/

/-- The text of a member of an object. -/
def memberText (m : String × Json) : List Char := quote m.1 ++ ':' :: m.2.chars

lemma itemChars_eq (items : List Json) : itemChars items = items.map chars := by
  induction items with
  | nil => rfl
  | cons v rest ih => rw [itemChars, ih, List.map_cons]

lemma memberChars_eq (members : List (String × Json)) :
    memberChars members = members.map memberText := by
  induction members with
  | nil => rfl
  | cons m rest ih =>
    obtain ⟨k, v⟩ := m
    rw [memberChars, ih, List.map_cons]
    rfl

/-- Induction over the values that a value is made of. -/
theorem induction {motive : Json → Prop} (null : motive .null) (bool : ∀ b, motive (.bool b))
    (number : ∀ n, motive (.number n)) (string : ∀ s, motive (.string s))
    (array : ∀ items, (∀ v ∈ items, motive v) → motive (.array items))
    (object : ∀ members : List (String × Json), (∀ m ∈ members, motive m.2) →
      motive (.object members)) : ∀ v, motive v
  | .null => null
  | .bool b => bool b
  | .number n => number n
  | .string s => string s
  | .array items => array items fun v _ => induction null bool number string array object v
  | .object members => object members fun ⟨_, v⟩ _ =>
    induction null bool number string array object v
termination_by v => sizeOf v
decreasing_by
  · have := List.sizeOf_lt_of_mem ‹v ∈ items›
    rw [Json.array.sizeOf_spec]
    omega
  · have := List.sizeOf_lt_of_mem ‹_ ∈ members›
    rw [Prod.mk.sizeOf_spec] at this
    rw [Json.object.sizeOf_spec]
    omega

/-- The characters that the text of a value of the same kind may open with. -/
def opens : Json → Char → Bool
  | .null, c => c == 'n'
  | .bool _, c => c == 't' || c == 'f'
  | .number _, c => isNumberChar c
  | .string _, c => c == '"'
  | .array _, c => c == '['
  | .object _, c => c == '{'

lemma exists_chars_eq_cons (v : Json) : ∃ c s, v.chars = c :: s ∧ v.opens c = true := by
  cases v with
  | number n =>
    obtain ⟨c, s, hs⟩ := List.exists_cons_of_ne_nil n.chars_ne_nil
    exact ⟨c, s, hs, n.isNumberChar_of_mem c (by simp [hs])⟩
  | bool b => cases b <;> exact ⟨_, _, rfl, rfl⟩
  | _ => exact ⟨_, _, rfl, rfl⟩

/-- No value opens with a closing mark. -/
lemma chars_append_ne (v : Json) {c : Char} (hc : c = ']' ∨ c = '}') (r s : List Char) :
    v.chars ++ r ≠ c :: s := by
  intro h
  obtain ⟨d, l, hl, hopen⟩ := v.exists_chars_eq_cons
  rw [hl, List.cons_append, List.cons.injEq] at h
  rw [h.1] at hopen
  rcases hc with rfl | rfl <;> cases v <;> simp [opens, isNumberChar] at hopen

lemma opens_of_chars_append_eq {v w : Json} {r s : List Char} (h : v.chars ++ r = w.chars ++ s) :
    ∃ c, v.opens c = true ∧ w.opens c = true := by
  obtain ⟨c, l, hl, hv⟩ := v.exists_chars_eq_cons
  obtain ⟨d, m, hm, hw⟩ := w.exists_chars_eq_cons
  rw [hl, hm, List.cons_append, List.cons_append, List.cons.injEq] at h
  exact ⟨c, hv, h.1 ▸ hw⟩

lemma memberText_append_ne (m : String × Json) (r s : List Char) :
    memberText m ++ r ≠ '\x7d' :: s := by
  simp [memberText, quote, quoteChars]

lemma memberText_prefixFree {m : String × Json} (hm : PrefixFree chars m.2) :
    PrefixFree memberText m := by
  obtain ⟨k, v⟩ := m
  rintro ⟨l, w⟩ r s hr hs h
  simp only [memberText, List.append_assoc, List.cons_append] at h
  obtain ⟨rfl, htail⟩ := quote_append_inj h
  obtain ⟨rfl, rfl⟩ := hm w r s hr hs (List.cons.inj htail).2
  exact ⟨rfl, rfl⟩

/-- **The text of a value is prefix-free.** -/
theorem chars_prefixFree (v : Json) : PrefixFree chars v := by
  induction v using induction with
  | null =>
    intro w r s _ _ h
    have hopen := opens_of_chars_append_eq h
    cases w with
    | null => exact ⟨rfl, List.append_cancel_left h⟩
    | _ => simp [opens, isNumberChar] at hopen
  | bool b =>
    intro w r s _ _ h
    have hopen := opens_of_chars_append_eq h
    cases w with
    | bool c => cases b <;> cases c <;> simp_all [chars, boolChars]
    | _ => simp [opens, isNumberChar] at hopen
  | number m =>
    intro w r s hr hs h
    have hopen := opens_of_chars_append_eq h
    cases w with
    | number n =>
      obtain ⟨rfl, rfl⟩ := Number.chars_append_inj hr hs h
      exact ⟨rfl, rfl⟩
    | _ => simp [opens, isNumberChar, and_or_left, exists_or] at hopen
  | string t =>
    intro w r s _ _ h
    have hopen := opens_of_chars_append_eq h
    cases w with
    | string u =>
      obtain ⟨rfl, rfl⟩ := quote_append_inj h
      exact ⟨rfl, rfl⟩
    | _ => simp [opens, isNumberChar] at hopen
  | array items ih =>
    intro w r s _ _ h
    have hopen := opens_of_chars_append_eq h
    cases w with
    | array items' =>
      simp only [chars, itemChars_eq, List.cons_append, List.append_assoc, List.cons.injEq,
        true_and, List.nil_append] at h
      obtain ⟨rfl, rfl⟩ := commaSep_append_inj rfl (by decide)
        (fun v => chars_append_ne v (.inl rfl)) ih h
      exact ⟨rfl, rfl⟩
    | _ => simp [opens, isNumberChar] at hopen
  | object members ih =>
    intro w r s _ _ h
    have hopen := opens_of_chars_append_eq h
    cases w with
    | object members' =>
      simp only [chars, memberChars_eq, List.cons_append, List.append_assoc, List.cons.injEq,
        true_and, List.nil_append] at h
      obtain ⟨rfl, rfl⟩ := commaSep_append_inj rfl (by decide) memberText_append_ne
        (fun m hm => memberText_prefixFree (ih m hm)) h
      exact ⟨rfl, rfl⟩
    | _ => simp [opens, isNumberChar] at hopen

/-- **Two values never share a text.** -/
theorem chars_injective {v w : Json} (h : v.chars = w.chars) : v = w :=
  (chars_prefixFree v w [] [] stops_nil stops_nil (by rw [h])).1

end Attestation.Json
