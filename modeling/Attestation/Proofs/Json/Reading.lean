import Attestation.Proofs.Json.Layout
import Attestation.Proofs.Json.Literal

/-!
The text of a value is read back, compact or indented, as long as its containers are not nested
deeper than is read and each of its numbers is read back from its own text. Whole numbers always
are.
-/

namespace Attestation.Json

open Numeral (isNumberChar)

/-! ### Depth and numbers -/

mutual

/-- How many containers stand inside one another in a value, itself counted. -/
def depth : Json → ℕ
  | .array items => depthItems items + 1
  | .object members => depthMembers members + 1
  | _ => 0

def depthItems : List Json → ℕ
  | [] => 0
  | v :: rest => max v.depth (depthItems rest)

def depthMembers : List (String × Json) → ℕ
  | [] => 0
  | (_, v) :: rest => max v.depth (depthMembers rest)

end

mutual

/-- The numbers in a value, in the order they are written. -/
def numbers : Json → List Number
  | .number n => [n]
  | .array items => numbersOfItems items
  | .object members => numbersOfMembers members
  | _ => []

def numbersOfItems : List Json → List Number
  | [] => []
  | v :: rest => v.numbers ++ numbersOfItems rest

def numbersOfMembers : List (String × Json) → List Number
  | [] => []
  | (_, v) :: rest => v.numbers ++ numbersOfMembers rest

end

lemma mem_numbersOfItems {n : Number} {v : Json} {items : List Json} (hv : v ∈ items)
    (hn : n ∈ v.numbers) : n ∈ numbersOfItems items := by
  induction items with
  | nil => simp at hv
  | cons w rest ih =>
    rw [numbersOfItems, List.mem_append]
    rcases List.mem_cons.1 hv with rfl | hv
    exacts [.inl hn, .inr (ih hv)]

lemma mem_numbersOfMembers {n : Number} {m : String × Json} {members : List (String × Json)}
    (hm : m ∈ members) (hn : n ∈ m.2.numbers) : n ∈ numbersOfMembers members := by
  induction members with
  | nil => simp at hm
  | cons w rest ih =>
    rw [numbersOfMembers, List.mem_append]
    rcases List.mem_cons.1 hm with rfl | hm
    exacts [.inl hn, .inr (ih hm)]

/-- A number that its own text is read back to. -/
def Number.ReadsBack (n : Number) : Prop := parse n.text = some (.number n)

/-! ### One value -/

lemma skipGap_cons {c : Char} (hc : isGap c = false) (s : List Char) : skipGap (c :: s) = c :: s :=
  List.dropWhile_cons_of_neg (by simp [hc])

lemma skipGap_append {g : List Char} (hg : ∀ c ∈ g, isGap c = true) (s : List Char) :
    skipGap (g ++ s) = skipGap s :=
  List.dropWhile_append_of_pos hg

lemma isGap_of_isNumberChar {c : Char} (hc : isNumberChar c = true) : isGap c = false := by
  by_contra hgap
  simp only [isGap, Bool.not_eq_false, Bool.or_eq_true, beq_iff_eq] at hgap
  rcases hgap with ((rfl | rfl) | rfl) | rfl <;> simp [isNumberChar] at hc

variable {join : List Piece → Option String} {fuel d : ℕ} {r : List Char}

section Opening

variable {s t : List Char}

lemma takeValue_quote (h : skipGap s = '"' :: t) : takeValue join (fuel + 1) d s =
    (takeString join t).map fun (x, rest) => (.string x, rest) := by
  rw [takeValue, h]
  rfl

lemma takeValue_noItems (h : skipGap s = '[' :: t) (ht : skipGap t = ']' :: r) :
    takeValue join (fuel + 1) d s = some (nested d (.array []), r) := by
  simp [takeValue, h, ht]

lemma takeValue_items (h : skipGap s = '[' :: t) (ht : (skipGap t).head? ≠ some ']') :
    takeValue join (fuel + 1) d s =
      (takeItems join fuel (d + 1) (skipGap t)).map fun (vs, rest) =>
        (nested d (.array vs), rest) := by
  simp only [takeValue, h]
  split <;> simp_all

lemma takeValue_noMembers (h : skipGap s = '\x7b' :: t) (ht : skipGap t = '\x7d' :: r) :
    takeValue join (fuel + 1) d s = some (nested d (.object []), r) := by
  simp [takeValue, h, ht]

lemma takeValue_members (h : skipGap s = '\x7b' :: t) (ht : (skipGap t).head? ≠ some '\x7d') :
    takeValue join (fuel + 1) d s =
      (takeMembers join fuel (d + 1) (skipGap t)).map fun (ms, rest) =>
        (nested d (.object ms), rest) := by
  simp only [takeValue, h]
  split <;> simp_all

/-- What a value other than a number starts with. -/
def openers : List Char := ['"', '[', '\x7b', 'n', 't', 'f']

lemma takeValue_literal (h : ∀ c ∈ (skipGap s).head?, c ∉ openers) :
    takeValue join (fuel + 1) d s =
      (takeLiteral (skipGap s)).map fun (l, rest) => (.number l.value?, rest) := by
  rw [takeValue]
  split
  · simp_all [takeLiteral, takeWhole, takeDigits]
  all_goals first | rfl | simp_all [openers]

end Opening

lemma takeValue_string (s : String) :
    takeValue charsText? (fuel + 1) d (quote s ++ r) = some (.string (some s), r) := by
  rw [quote_append, takeValue_quote (skipGap_cons rfl _)]
  simp [takeString_escaped]

lemma takeValue_number {c : Char} (hc : isNumberChar c = true) (s : List Char) :
    takeValue join (fuel + 1) d (c :: s) =
      (takeLiteral (c :: s)).map fun (l, r) => (.number l.value?, r) := by
  have hgap := skipGap_cons (isGap_of_isNumberChar hc) s
  have hall : openers.all (!isNumberChar ·) = true := by decide
  have hopen : c ∉ openers := fun h => by simpa [hc] using List.all_eq_true.1 hall c h
  rw [takeValue_literal (by simpa [hgap] using hopen), hgap]

/-- White space in front of a value is skipped. -/
lemma takeValue_gap {g : List Char} (hg : ∀ c ∈ g, isGap c = true) (s : List Char) :
    takeValue join fuel d (g ++ s) = takeValue join fuel d s := by
  cases fuel with
  | zero => rfl
  | succ fuel => rw [takeValue, takeValue, skipGap_append hg]

lemma takeItems_gap {g : List Char} (hg : ∀ c ∈ g, isGap c = true) (s : List Char) :
    takeItems join fuel d (g ++ s) = takeItems join fuel d s := by
  cases fuel with
  | zero => rfl
  | succ fuel => rw [takeItems, takeItems, takeValue_gap hg]

lemma takeMembers_gap {g : List Char} (hg : ∀ c ∈ g, isGap c = true) (s : List Char) :
    takeMembers join fuel d (g ++ s) = takeMembers join fuel d s := by
  cases fuel with
  | zero => rfl
  | succ fuel => rw [takeMembers, takeMembers, skipGap_append hg]

section Containers

variable {g : List Char} {c : Char}

lemma takeValue_array (hg : ∀ c ∈ g, isGap c = true) (hc : isGap c = false) (hclose : c ≠ ']')
    (s : List Char) : takeValue join (fuel + 1) d ('[' :: (g ++ c :: s)) =
      (takeItems join fuel (d + 1) (g ++ c :: s)).map fun (vs, r) => (nested d (.array vs), r) := by
  have hgap : skipGap (g ++ c :: s) = c :: s := by rw [skipGap_append hg, skipGap_cons hc]
  rw [takeValue_items (skipGap_cons rfl _) (by simpa [hgap] using hclose), hgap, takeItems_gap hg]

lemma takeValue_object (hg : ∀ c ∈ g, isGap c = true) (hc : isGap c = false) (hclose : c ≠ '\x7d')
    (s : List Char) : takeValue join (fuel + 1) d ('\x7b' :: (g ++ c :: s)) =
      (takeMembers join fuel (d + 1) (g ++ c :: s)).map
        fun (ms, r) => (nested d (.object ms), r) := by
  have hgap : skipGap (g ++ c :: s) = c :: s := by rw [skipGap_append hg, skipGap_cons hc]
  rw [takeValue_members (skipGap_cons rfl _) (by simpa [hgap] using hclose), hgap,
    takeMembers_gap hg]

end Containers

/-- A number is read back exactly when its text is one literal that stands for it. -/
lemma Number.readsBack_iff {n : Number} :
    n.ReadsBack ↔ ∃ l, takeLiteral n.chars = some (l, []) ∧ l.value? = some n := by
  obtain ⟨c, s, hs⟩ := List.exists_cons_of_ne_nil n.chars_ne_nil
  have hall := n.isNumberChar_of_mem
  have htake : takeValue charsText? (2 * (c :: s).length + 1) 0 (c :: s) =
      (takeLiteral (c :: s)).map fun (l, r) => (.number l.value?, r) :=
    takeValue_number (hall c (by simp [hs])) s
  rw [ReadsBack, text, parse, String.toList_ofList, Draft.parse, Draft.parseWith, hs, htake]
  constructor
  · intro hread
    rcases hl : takeLiteral (c :: s) with _ | ⟨l, t⟩
    · rw [hl] at hread
      cases hread
    simp only [hl, Option.map_some, Option.bind_eq_bind, Option.bind_some] at hread
    -- what is left over is made of characters of the number, so nothing of it is a gap
    have hgap : skipGap t = t := Text.dropWhile_of_forall_not fun e he =>
      isGap_of_isNumberChar (hall e (hs ▸ (takeLiteral_suffix hl).subset he))
    rw [hgap] at hread
    cases t with
    | nil => exact ⟨l, rfl, by simpa [Draft.value?] using hread⟩
    | cons e t => simp at hread
  · rintro ⟨l, hl, hvalue⟩
    simp only [hl, Option.map_some, hvalue]
    rfl

lemma Number.exists_literal (n : Number) (h : ∀ x hx, n = .real x hx → n.ReadsBack) :
    ∃ l, takeLiteral n.chars = some (l, []) ∧ l.value? = some n := by
  cases n with
  | natural n => exact exists_literal_natural n
  | negSucc n => exact exists_literal_negSucc n
  | real x hx => exact readsBack_iff.1 (h x hx rfl)

/-! ### Whole values -/

/-- With enough fuel the text of the value is read back inside `d` containers, however it is laid
out and wherever it may stand. -/
def ReadsBack (v : Json) : Prop :=
  ∀ {l : Layout} {n fuel d : ℕ} {r : List Char}, 2 * (laid l n v).length ≤ fuel →
    d + v.depth < depthLimit → Closes r →
      takeValue charsText? fuel d (laid l n v ++ r) = some (v.draft, r)

section Steps

variable {s t u w : List Char} {v : Draft} {k : Option String}

lemma takeItems_last (h : takeValue join fuel d s = some (v, t)) (ht : skipGap t = ']' :: r) :
    takeItems join (fuel + 1) d s = some ([v], r) := by
  simp [takeItems, h, ht]

lemma takeItems_comma (h : takeValue join fuel d s = some (v, ',' :: t)) :
    takeItems join (fuel + 1) d s = (takeItems join fuel d t).map fun (vs, r) => (v :: vs, r) := by
  simp [takeItems, h, skipGap_cons (c := ',') rfl, Option.map_eq_bind]

variable (hs : skipGap s = '"' :: t) (hk : takeString join t = some (k, ':' :: u))

include hs hk

lemma takeMembers_last (h : takeValue join fuel d u = some (v, w)) (hw : skipGap w = '\x7d' :: r) :
    takeMembers join (fuel + 1) d s = some ([(k, v)], r) := by
  simp [takeMembers, hs, hk, h, hw, skipGap_cons (c := ':') rfl]

lemma takeMembers_comma (h : takeValue join fuel d u = some (v, ',' :: w)) :
    takeMembers join (fuel + 1) d s =
      (takeMembers join fuel d w).map fun (ms, r) => ((k, v) :: ms, r) := by
  simp [takeMembers, hs, hk, h, skipGap_cons (c := ':') rfl, skipGap_cons (c := ',') rfl,
    Option.map_eq_bind]

end Steps

section Laid

variable {l : Layout} {n m : ℕ}

lemma skipGap_line {c : Char} (hc : isGap c = false) (s : List Char) :
    skipGap (l.line n ++ c :: s) = c :: s := by
  rw [skipGap_append (l.isGap_of_mem_line n), skipGap_cons hc]

lemma closes_line {c : Char} (hc : c ∈ closers) (s : List Char) : Closes (l.line n ++ c :: s) := by
  have hgap : ∀ c, isGap c = true → c ∈ closers := by
    intro c h
    simp only [isGap, Bool.or_eq_true, beq_iff_eq] at h
    rcases h with ((rfl | rfl) | rfl) | rfl <;> decide
  have hline := l.isGap_of_mem_line n
  generalize l.line n = g at hline ⊢
  cases g with
  | nil => exact closes_cons hc s
  | cons e g => exact closes_cons (hgap e (hline e List.mem_cons_self)) _

lemma takeItems_laid {v : Json} {vs : List Json} (hread : ∀ w ∈ v :: vs, w.ReadsBack)
    (hfuel : 2 * (l.join n (laidItems l n (v :: vs))).length < fuel)
    (hdepth : d + depthItems (v :: vs) < depthLimit) :
    takeItems charsText? fuel d (l.join n (laidItems l n (v :: vs)) ++ (l.line m ++ ']' :: r)) =
      some (draftItems (v :: vs), r) := by
  -- each item costs one step of fuel, and the comma behind it pays for that step
  obtain ⟨fuel, rfl⟩ : ∃ n, fuel = n + 1 := Nat.exists_eq_add_one.2 (by omega)
  induction vs generalizing v fuel with
  | nil =>
    simp only [laidItems, Layout.join, depthItems, List.length_append] at hfuel hdepth ⊢
    have hv : takeValue charsText? fuel d (l.line n ++ (laid l n v ++ (l.line m ++ ']' :: r))) =
        some (v.draft, l.line m ++ ']' :: r) := by
      rw [takeValue_gap (l.isGap_of_mem_line n)]
      exact hread v List.mem_cons_self (by omega) (by omega) (closes_line (by decide) r)
    rw [List.append_assoc]
    exact takeItems_last hv (skipGap_line rfl r)
  | cons w vs ih =>
    simp only [laidItems, Layout.join, depthItems, List.length_append, List.length_cons] at *
    have hv (t : List Char) : takeValue charsText? fuel d (l.line n ++ (laid l n v ++ ',' :: t)) =
        some (v.draft, ',' :: t) := by
      rw [takeValue_gap (l.isGap_of_mem_line n)]
      exact hread v List.mem_cons_self (by omega) (by omega) (closes_cons (by decide) t)
    rw [List.append_assoc, List.append_assoc, List.cons_append, takeItems_comma (hv _)]
    obtain ⟨fuel, rfl⟩ : ∃ n, fuel = n + 1 := Nat.exists_eq_add_one.2 (by omega)
    rw [ih (fun u hu => hread u (List.mem_cons_of_mem v hu)) (by omega) fuel (by omega)]
    rfl

lemma member_append (l : Layout) (n : ℕ) (k : String) (v : Json) (r : List Char) :
    quote k ++ ':' :: l.colon ++ laid l n v ++ r =
      '"' :: (k.toList.flatMap escape ++ '"' :: ':' :: (l.colon ++ (laid l n v ++ r))) := by
  rw [List.append_assoc, List.append_assoc, quote_append, List.cons_append]

lemma takeMembers_laid {k : String} {v : Json} {ms : List (String × Json)}
    (hread : ∀ m ∈ (k, v) :: ms, m.2.ReadsBack)
    (hfuel : 2 * (l.join n (laidMembers l n ((k, v) :: ms))).length < fuel)
    (hdepth : d + depthMembers ((k, v) :: ms) < depthLimit) :
    takeMembers charsText? fuel d
        (l.join n (laidMembers l n ((k, v) :: ms)) ++ (l.line m ++ '\x7d' :: r)) =
      some (draftMembers ((k, v) :: ms), r) := by
  obtain ⟨fuel, rfl⟩ : ∃ n, fuel = n + 1 := Nat.exists_eq_add_one.2 (by omega)
  induction ms generalizing k v fuel with
  | nil =>
    have hread : v.ReadsBack := hread (k, v) List.mem_cons_self
    simp only [laidMembers, Layout.join, depthMembers, List.length_append, List.length_cons] at *
    have hv : takeValue charsText? fuel d (l.colon ++ (laid l n v ++ (l.line m ++ '\x7d' :: r))) =
        some (v.draft, l.line m ++ '\x7d' :: r) := by
      rw [takeValue_gap l.isGap_of_mem_colon]
      exact hread (by omega) (by omega) (closes_line (by decide) r)
    rw [List.append_assoc, member_append]
    exact takeMembers_last (skipGap_line rfl _) (takeString_escaped k _) hv (skipGap_line rfl r)
  | cons m ms ih =>
    obtain ⟨l', w⟩ := m
    have hvalue : v.ReadsBack := hread (k, v) List.mem_cons_self
    simp only [laidMembers, Layout.join, depthMembers, List.length_append, List.length_cons] at *
    have hv (t : List Char) : takeValue charsText? fuel d (l.colon ++ (laid l n v ++ ',' :: t)) =
        some (v.draft, ',' :: t) := by
      rw [takeValue_gap l.isGap_of_mem_colon]
      exact hvalue (by omega) (by omega) (closes_cons (by decide) t)
    rw [List.append_assoc, List.append_assoc, member_append, List.cons_append,
      takeMembers_comma (skipGap_line rfl _) (takeString_escaped k _) (hv _)]
    obtain ⟨fuel, rfl⟩ : ∃ n, fuel = n + 1 := Nat.exists_eq_add_one.2 (by omega)
    rw [ih (fun u hu => hread u (List.mem_cons_of_mem _ hu)) (by omega) fuel (by omega)]
    rfl

end Laid

lemma nested_of_lt {n : ℕ} (h : d + (n + 1) < depthLimit) (v : Draft) : nested d v = v := by
  rw [nested, if_neg (by omega)]

/-- The text of a value opens as the value does. -/
lemma exists_laid_eq_cons (l : Layout) (n : ℕ) (v : Json) :
    ∃ c s, laid l n v = c :: s ∧ v.opens c = true := by
  cases v with
  | array items => cases items <;> exact ⟨_, _, rfl, rfl⟩
  | object members => cases members <;> exact ⟨_, _, rfl, rfl⟩
  | null => exact exists_chars_eq_cons .null
  | bool b => exact exists_chars_eq_cons (.bool b)
  | number n => exact exists_chars_eq_cons (.number n)
  | string s => exact exists_chars_eq_cons (.string s)

lemma opens_eq_false {c : Char} (hc : isGap c = true ∨ c = ']') (v : Json) : v.opens c = false := by
  simp only [isGap, Bool.or_eq_true, beq_iff_eq] at hc
  rcases hc with (((rfl | rfl) | rfl) | rfl) | rfl <;> cases v <;> rfl

/-- No gap and no closing mark opens a value. -/
lemma of_opens {c : Char} {v : Json} (h : v.opens c = true) : isGap c = false ∧ c ≠ ']' := by
  refine ⟨Bool.eq_false_iff.2 fun hgap => ?_, fun hclose => ?_⟩
  · rw [v.opens_eq_false (.inl hgap)] at h
    cases h
  · rw [v.opens_eq_false (.inr hclose)] at h
    cases h

lemma readsBack_of_succ {v : Json} (h : ∀ {l : Layout} {n fuel d : ℕ} {r : List Char},
    2 * (laid l n v).length ≤ fuel + 1 → d + v.depth < depthLimit → Closes r →
      takeValue charsText? (fuel + 1) d (laid l n v ++ r) = some (v.draft, r)) : v.ReadsBack := by
  intro l n fuel d r hfuel hdepth hr
  obtain ⟨c, s, hs, -⟩ := v.exists_laid_eq_cons l n
  have hlen : 0 < (laid l n v).length := by simp [hs]
  obtain ⟨fuel, rfl⟩ : ∃ n, fuel = n + 1 := Nat.exists_eq_add_one.2 (by omega)
  exact h hfuel hdepth hr

lemma number_readsBack {n : Number} (h : ∀ x hx, n = .real x hx → n.ReadsBack) :
    (number n).ReadsBack := by
  refine readsBack_of_succ fun {l m fuel d r} _ _ hr => ?_
  obtain ⟨l, hl, hvalue⟩ := n.exists_literal h
  obtain ⟨c, s, hs⟩ := List.exists_cons_of_ne_nil n.chars_ne_nil
  have hc := n.isNumberChar_of_mem c (by simp [hs])
  have htake := takeLiteral_append n.chars hr
  rw [hl] at htake
  rw [laid, hs, List.cons_append, takeValue_number hc, ← List.cons_append, ← hs, htake]
  simp [hvalue, draft]

lemma exists_join_cons (l : Layout) (n : ℕ) (p : List Char) (ps : List (List Char)) :
    ∃ t, l.join n (p :: ps) = l.line n ++ (p ++ t) := by
  cases ps with
  | nil => exact ⟨[], by simp [Layout.join]⟩
  | cons q ps => exact ⟨',' :: l.join n (q :: ps), by simp [Layout.join]⟩

lemma array_readsBack {items : List Json} (h : ∀ v ∈ items, v.ReadsBack) :
    (array items).ReadsBack := by
  refine readsBack_of_succ fun {l n fuel d r} hfuel hdepth _ => ?_
  rw [depth] at hdepth
  cases items with
  | nil => exact (takeValue_noItems rfl rfl).trans (by rw [nested_of_lt hdepth]; rfl)
  | cons v vs =>
    simp only [laid, List.cons_append, List.append_assoc, List.nil_append, List.length_cons,
      List.length_append, List.length_nil] at hfuel ⊢
    obtain ⟨c, s, hs, hopen⟩ := v.exists_laid_eq_cons l (n + 1)
    obtain ⟨hgap, hclose⟩ := of_opens hopen
    obtain ⟨t, ht⟩ := exists_join_cons l (n + 1) (laid l (n + 1) v) (laidItems l (n + 1) vs)
    have htake : takeValue charsText? (fuel + 1) d _ = _ := takeValue_array
      (l.isGap_of_mem_line (n + 1)) hgap hclose (s ++ t ++ (l.line n ++ ']' :: r))
    have htext : l.line (n + 1) ++ c :: (s ++ t ++ (l.line n ++ ']' :: r)) =
        l.join (n + 1) (laidItems l (n + 1) (v :: vs)) ++ (l.line n ++ ']' :: r) := by
      rw [laidItems, ht, hs]
      simp
    rw [htext, takeItems_laid h (by omega) (by omega)] at htake
    rw [htake, draft, ← nested_of_lt hdepth (.array _)]
    rfl

lemma object_readsBack {members : List (String × Json)} (h : ∀ m ∈ members, m.2.ReadsBack) :
    (object members).ReadsBack := by
  refine readsBack_of_succ fun {l n fuel d r} hfuel hdepth _ => ?_
  rw [depth] at hdepth
  cases members with
  | nil => exact (takeValue_noMembers rfl rfl).trans (by rw [nested_of_lt hdepth]; rfl)
  | cons m ms =>
    obtain ⟨k, v⟩ := m
    simp only [laid, List.cons_append, List.append_assoc, List.nil_append, List.length_cons,
      List.length_append, List.length_nil] at hfuel ⊢
    obtain ⟨t, ht⟩ := exists_join_cons l (n + 1) (quote k ++ ':' :: l.colon ++ laid l (n + 1) v)
      (laidMembers l (n + 1) ms)
    have htake : takeValue charsText? (fuel + 1) d _ = _ := takeValue_object (c := '"')
      (l.isGap_of_mem_line (n + 1)) rfl (by decide) (k.toList.flatMap escape ++ '"' :: ':' ::
        (l.colon ++ (laid l (n + 1) v ++ (t ++ (l.line n ++ '\x7d' :: r)))))
    rw [← member_append, ← List.append_assoc _ t, ← List.append_assoc, ← ht, ← laidMembers,
      takeMembers_laid h (by omega) (by omega)] at htake
    rw [htake, draft, ← nested_of_lt hdepth (.object _)]
    rfl

theorem readsBack (v : Json) (h : ∀ x hx, .real x hx ∈ v.numbers → (Number.real x hx).ReadsBack) :
    v.ReadsBack := by
  induction v using induction with
  | null => exact readsBack_of_succ fun _ _ _ => rfl
  | bool b => cases b <;> exact readsBack_of_succ fun _ _ _ => rfl
  | number n =>
    exact number_readsBack fun x hx hn => hn ▸ h x hx (by simp [numbers, hn])
  | string s => exact readsBack_of_succ fun _ _ _ => takeValue_string s
  | array items ih =>
    exact array_readsBack fun v hv =>
      ih v hv fun x hx hmem => h x hx (mem_numbersOfItems hv hmem)
  | object members ih =>
    exact object_readsBack fun m hm =>
      ih m hm fun x hx hmem => h x hx (mem_numbersOfMembers hm hmem)

/-- The texts that a value is printed as. -/
def texts (v : Json) : List String := [v.text, v.pretty]

section Whole

variable {v : Json} (hdepth : v.depth < depthLimit)
  (h : ∀ x hx, .real x hx ∈ v.numbers → (Number.real x hx).ReadsBack)

include hdepth h

/-- **The text of a value is read back** if it is not nested deeper than is read and its binary64
numbers are read back from their own texts, however it is laid out. -/
theorem draftParse_laid (l : Layout) (n : ℕ) : Draft.parse (laid l n v) = some v.draft := by
  have hv : takeValue charsText? (2 * (laid l n v).length + 1) 0 (laid l n v ++ []) =
      some (v.draft, []) :=
    v.readsBack h (by omega) (by omega) closes_nil
  rw [List.append_nil] at hv
  rw [Draft.parse, Draft.parseWith, hv]
  rfl

theorem draftParse_chars : Draft.parse v.chars = some v.draft := by
  rw [← laid_compact 0, draftParse_laid hdepth h]

theorem draftParse_indented : Draft.parse (v.indented 0) = some v.draft := by
  rw [← laid_indented, draftParse_laid hdepth h]

lemma draftParse_of_mem_texts {t : String} (ht : t ∈ v.texts) :
    Draft.parse t.toList = some v.draft := by
  simp only [texts, List.mem_cons, List.not_mem_nil, or_false] at ht
  rcases ht with rfl | rfl
  · rw [text, String.toList_ofList, draftParse_chars hdepth h]
  · rw [pretty, String.toList_ofList, draftParse_indented hdepth h]

end Whole

end Attestation.Json
