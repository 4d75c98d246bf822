import Attestation.Text.Blank
import Mathlib.Data.List.DropRight
import Mathlib.Data.List.TakeWhile
import Mathlib.Tactic.Lemma

/-!
Runs of characters of one kind, what trimming leaves of a text, and the pieces between separators.
-/

namespace Attestation.Text

variable {α : Type} {p : α → Bool}

/-- A run of one kind is found when nothing of the kind follows it. -/
lemma takeWhile_run {d t : List α} (hd : ∀ c ∈ d, p c = true) (ht : ∀ c ∈ t.head?, p c = false) :
    (d ++ t).takeWhile p = d ∧ (d ++ t).dropWhile p = t := by
  rw [List.takeWhile_append_of_pos hd, List.dropWhile_append_of_pos hd]
  cases t with
  | nil => simp
  | cons c t =>
    have hc := ht c rfl
    simp [hc]

/-- What begins with another kind does not move the end of a run before it. -/
lemma takeWhile_append_stop (s : List α) {t : List α} (ht : ∀ c ∈ t.head?, p c = false) :
    (s ++ t).takeWhile p = s.takeWhile p ∧ (s ++ t).dropWhile p = s.dropWhile p ++ t := by
  induction s with
  | nil => exact takeWhile_run (d := []) (by simp) ht
  | cons c s ih =>
    by_cases hc : p c = true
    · simp [hc, ih]
    · simp [hc]

/-- The same from the end: what stands behind an element of another kind is the last run. -/
lemma rtakeWhile_append {after : List α} {c : α} (hafter : ∀ d ∈ after, p d = true)
    (hc : p c = false) (before : List α) : (before ++ c :: after).rtakeWhile p = after := by
  have hrun : (after.reverse ++ (c :: before.reverse)).takeWhile p = after.reverse :=
    (takeWhile_run (fun d hd => hafter d (List.mem_reverse.1 hd)) (by simpa using hc)).1
  have hreverse : (before ++ c :: after).reverse = after.reverse ++ (c :: before.reverse) := by
    simp
  rw [List.rtakeWhile, hreverse, hrun, List.reverse_reverse]

lemma dropWhile_of_forall_not {l : List α} (h : ∀ c ∈ l, p c = false) : l.dropWhile p = l := by
  cases l with
  | nil => rfl
  | cons c l => rw [List.dropWhile_cons_of_neg (by simp [h c List.mem_cons_self])]

lemma stripWhile_of_forall_not {l : List α} (h : ∀ c ∈ l, p c = false) : stripWhile p l = l := by
  have hrev : ∀ c ∈ l.reverse, p c = false := fun c hc => h c (List.mem_reverse.1 hc)
  rw [stripWhile, dropEndWhile, dropWhile_of_forall_not h, dropWhile_of_forall_not hrev,
    List.reverse_reverse]

lemma dropWhile_congr {q : α → Bool} {l : List α} (h : ∀ c ∈ l, p c = q c) :
    l.dropWhile p = l.dropWhile q := by
  induction l with
  | nil => rfl
  | cons c l ih =>
    obtain ⟨hc, hl⟩ := List.forall_mem_cons.1 h
    rw [List.dropWhile_cons, List.dropWhile_cons, hc, ih hl]

lemma stripWhile_congr {q : α → Bool} {l : List α} (h : ∀ c ∈ l, p c = q c) :
    stripWhile p l = stripWhile q l := by
  have hrev : ∀ c ∈ (l.dropWhile q).reverse, p c = q c := fun c hc =>
    h c ((List.dropWhile_sublist q).subset (List.mem_reverse.1 hc))
  rw [stripWhile, stripWhile, dropWhile_congr h, dropEndWhile, dropEndWhile, dropWhile_congr hrev]

/-- Trimming takes white space away at both ends. -/
lemma exists_eq_append_trimChars (s : List Char) : ∃ before after,
    s = before ++ trimChars s ++ after ∧ (∀ c ∈ before, isSpace c = true) ∧
      ∀ c ∈ after, isSpace c = true := by
  refine ⟨s.takeWhile isSpace, ((s.dropWhile isSpace).reverse.takeWhile isSpace).reverse,
    ?_, ?_, ?_⟩
  · rw [trimChars, stripWhile, dropEndWhile, List.append_assoc, ← List.reverse_append,
      List.takeWhile_append_dropWhile, List.reverse_reverse, List.takeWhile_append_dropWhile]
  · exact fun c hc => List.mem_takeWhile_imp hc
  · exact fun c hc => List.mem_takeWhile_imp (List.mem_reverse.1 hc)

/-- What is trimmed may stand in white space. -/
lemma stripWhile_append {before word after : List α} (hbefore : ∀ c ∈ before, p c = true)
    (hafter : ∀ c ∈ after, p c = true) :
    stripWhile p (before ++ word ++ after) = stripWhile p word := by
  have hnone : after.dropWhile p = [] := List.dropWhile_eq_nil_iff.2 hafter
  have hrev : ∀ c ∈ after.reverse, p c = true := fun c hc => hafter c (List.mem_reverse.1 hc)
  unfold stripWhile
  rw [List.append_assoc, List.dropWhile_append_of_pos hbefore, List.dropWhile_append]
  split_ifs with hword
  · rw [hnone, List.isEmpty_iff.1 hword]
  · rw [dropEndWhile, dropEndWhile, List.reverse_append, List.dropWhile_append_of_pos hrev]

/-- What has no white space in it is left when what stands around it is trimmed. -/
lemma trimChars_append {before word after : List Char} (hbefore : ∀ c ∈ before, isSpace c = true)
    (hafter : ∀ c ∈ after, isSpace c = true) (hword : ∀ c ∈ word, isSpace c = false) :
    trimChars (before ++ word ++ after) = word := by
  rw [trimChars, stripWhile_append hbefore hafter, stripWhile_of_forall_not hword]

/-- Where nothing of the kind is at the end, a run can only be stripped off the start. -/
lemma stripWhile_append_stop (before : List α) {word : List α} (hne : word ≠ [])
    (hword : ∀ c ∈ word, p c = false) :
    stripWhile p (before ++ word) = before.dropWhile p ++ word := by
  have hleft : (before ++ word).dropWhile p = before.dropWhile p ++ word :=
    (takeWhile_append_stop before fun c hc => hword c (List.mem_of_mem_head? hc)).2
  obtain ⟨c, rest, hrev⟩ := List.exists_cons_of_ne_nil (List.reverse_ne_nil_iff.2 hne)
  have hc : p c = false := hword c (List.mem_reverse.1 (hrev ▸ List.mem_cons_self))
  rw [stripWhile, dropEndWhile, hleft, List.reverse_append, hrev, List.cons_append,
    List.dropWhile_cons_of_neg (by simp [hc]), ← List.cons_append, ← hrev, ← List.reverse_append,
    List.reverse_reverse]

lemma trim_append {before after : List Char} (s : String) (hbefore : ∀ c ∈ before, isSpace c = true)
    (hafter : ∀ c ∈ after, isSpace c = true) :
    trim (String.ofList (before ++ s.toList ++ after)) = trim s := by
  rw [trim, trim, String.toList_ofList, trimChars, stripWhile_append hbefore hafter, trimChars]

lemma mem_of_mem_trim {c : Char} {s : String} (h : c ∈ (trim s).toList) : c ∈ s.toList := by
  rw [trim, String.toList_ofList] at h
  obtain ⟨before, after, heq, -, -⟩ := exists_eq_append_trimChars s.toList
  rw [heq]
  exact List.mem_append_left _ (List.mem_append_right _ h)

/-- Nothing is left of a blank text. -/
lemma trim_eq_empty_of_isBlank {s : String} (h : isBlank s = true) : trim s = "" := by
  have hnone : s.toList.dropWhile isSpace = [] :=
    List.dropWhile_eq_nil_iff.2 (List.all_eq_true.1 h)
  rw [trim, trimChars, stripWhile, hnone]
  rfl

/-! ### Pieces -/

lemma splitChars_cons_of_pos {p : Char → Bool} {c : Char} (hc : p c = true) (s : List Char) :
    splitChars p (c :: s) = [] :: splitChars p s := by
  rw [splitChars, if_pos hc]

/-- A character that is no separator belongs to the first piece. -/
lemma exists_splitChars_cons {p : Char → Bool} {c : Char} (hc : p c = false) (s : List Char) :
    ∃ piece more, splitChars p s = piece :: more ∧
      splitChars p (c :: s) = (c :: piece) :: more := by
  obtain ⟨piece, more, heq⟩ := List.exists_cons_of_ne_nil (splitChars_ne_nil p s)
  refine ⟨piece, more, heq, ?_⟩
  rw [splitChars, if_neg (Bool.eq_false_iff.1 hc), heq]

/-- No piece has a separator in it. -/
lemma not_sep_of_mem_splitChars {p : Char → Bool} {s : List Char} :
    ∀ piece ∈ splitChars p s, ∀ c ∈ piece, p c = false := by
  induction s with
  | nil => simp [splitChars]
  | cons c s ih =>
    by_cases hc : p c = true
    · rw [splitChars_cons_of_pos hc]
      exact List.forall_mem_cons.2 ⟨by simp, ih⟩
    · have hc : p c = false := Bool.eq_false_iff.2 hc
      obtain ⟨piece, more, heq, hcons⟩ := exists_splitChars_cons hc s
      rw [heq] at ih
      obtain ⟨hpiece, hmore⟩ := List.forall_mem_cons.1 ih
      rw [hcons]
      exact List.forall_mem_cons.2 ⟨List.forall_mem_cons.2 ⟨hc, hpiece⟩, hmore⟩

/-- With the separator between them, the pieces are the text. -/
lemma intercalate_splitChars {p : Char → Bool} {sep : Char} (hp : ∀ c, p c = true → c = sep)
    (s : List Char) : [sep].intercalate (splitChars p s) = s := by
  induction s with
  | nil => rfl
  | cons c s ih =>
    by_cases hc : p c = true
    · rw [splitChars_cons_of_pos hc, List.intercalate_cons_of_ne_nil (splitChars_ne_nil p s), ih,
        hp c hc]
      rfl
    · obtain ⟨piece, more, heq, hcons⟩ := exists_splitChars_cons (Bool.eq_false_iff.2 hc) s
      rw [heq] at ih
      rw [hcons, List.intercalate_cons_cons_left, ih]

lemma intercalate_split (s : String) : String.intercalate "," (split (· == ',') s) = s := by
  have hid : String.toList ∘ String.ofList = id := funext fun _ => String.toList_ofList
  rw [← String.toList_inj, String.toList_intercalate, split, List.map_map, hid, List.map_id]
  exact intercalate_splitChars (fun c hc => beq_iff_eq.1 hc) s.toList

end Attestation.Text
