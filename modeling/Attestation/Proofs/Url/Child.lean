import Attestation.Proofs.Text.Bytes
import Attestation.Proofs.Url.Segment

/-!
Which texts name a resource of their own below an address: all but the two dot segments, texts
with a character that addresses drop, and a drive written with a bar at the root of files. Below
an address whose path is two empty segments nothing has a place of its own.
-/

namespace Attestation.Url

/-- The text of the path without a slash at its end. -/
def openPath (u : Url) : List Char :=
  if (pathChars u.path).getLast? = some '/' then (pathChars u.path).dropLast else pathChars u.path

/-- The path of `u` is that of `base`, less a slash at its end, and one segment more, which is
no dot segment and stands for `s`. -/
def IsChild (base u : Url) (s : String) : Prop :=
  ∃ segment, pathChars u.path = base.openPath ++ '/' :: segment ∧ '/' ∉ segment ∧
    isDot segment = false ∧ isDoubleDot segment = false ∧ Percent.decode segment = Text.utf8 s

/-- The text names a resource of its own below `base`. -/
structure Nameable (base : Url) (s : String) : Prop where
  whole : ∀ c ∈ s.toList, isDropped c = false
  ne_dot : s ≠ "."
  ne_dots : s ≠ ".."
  not_bare : base.path ≠ [[], []]
  not_drive : base.scheme = file → base.path = [[]] →
    ∀ letter : Char, letter.isAlpha = true → s.toList ≠ [letter, '|']

/-! ### The path below which a segment is put -/

/-- The segments without an empty last one. -/
def shorn (path : List (List Char)) : List (List Char) :=
  if path.getLast? = some [] then path.dropLast else path

lemma shorn_concat_nil (path : List (List Char)) : shorn (path ++ [[]]) = path := by
  rw [shorn, List.getLast?_concat, if_pos rfl, List.dropLast_concat]

lemma shorn_of_getLast?_ne {path : List (List Char)} (h : path.getLast? ≠ some []) :
    shorn path = path :=
  if_neg h

lemma openPath_eq {u : Url} (h : Slashless u.path) : u.openPath = pathChars (shorn u.path) := by
  unfold openPath
  rcases List.eq_nil_or_concat u.path with hnil | ⟨init, last, hpath⟩
  · simp [hnil, pathChars, shorn]
  · rw [List.concat_eq_append] at hpath
    have hlast : '/' ∉ last := h last (by simp [hpath])
    rw [hpath]
    cases last with
    | nil =>
      rw [shorn_concat_nil, pathChars_append, pathChars_singleton, List.getLast?_concat,
        if_pos rfl, List.dropLast_concat]
    | cons c s =>
      have hne : (pathChars (init ++ [c :: s])).getLast? ≠ some '/' := by
        rw [pathChars_append, pathChars_singleton]
        intro hmem
        rw [List.getLast?_append, List.getLast?_cons_cons] at hmem
        exact hlast (List.mem_of_getLast? (by simpa using hmem))
      rw [if_neg hne, shorn_of_getLast?_ne (by simp)]

lemma popEmpty_of_ne {path : List (List Char)} (h : path ≠ [[]]) : popEmpty path = shorn path := by
  unfold popEmpty shorn
  rcases List.eq_nil_or_concat path with rfl | ⟨init, last, rfl⟩
  · simp
  · cases init with
    | nil => cases last <;> simp_all
    | cons p init => simp

lemma shorn_ne_singleton {path : List (List Char)} (h : path ≠ [[], []]) : shorn path ≠ [[]] := by
  rcases List.eq_nil_or_concat path with rfl | ⟨init, last, rfl⟩
  · simp [shorn]
  · rw [List.concat_eq_append] at h ⊢
    cases last with
    | nil =>
      rw [shorn_concat_nil]
      rintro rfl
      exact h rfl
    | cons c s =>
      rw [shorn_of_getLast?_ne (by simp)]
      cases init <;> simp

/-- A segment goes behind the path without its empty last one. -/
lemma append_popEmpty {path : List (List Char)} (h : path ≠ [[], []]) (s : List Char) :
    append (popEmpty path) s = shorn path ++ [s] := by
  by_cases hroot : path = [[]]
  · subst hroot
    rfl
  · rw [popEmpty_of_ne hroot, append, if_neg (shorn_ne_singleton h)]

/-! ### Below any path -/

section Below

variable {special : Bool}

variable {ofFile : Bool} {path : List (List Char)} {s : List Char}

/-- A text that is no dot segment is put below a path as it is, or as a path from the root. -/
lemma below_of_whole (hwhole : ∀ c ∈ s, isDropped c = false) (hdot : s ≠ ['.'])
    (hdots : s ≠ ['.', '.']) :
    below ofFile special path s =
      if ofFile && popEmpty path = [[]] then rooted (Percent.inSegment special) s
      else append (popEmpty path) (Percent.encode (Percent.inSegment special) s) := by
  have hpercent : Percent.inSegment special '%' = false := inSegment_percent
  have h1 := (isDoubleDot_encode inSegment_stop hpercent).not.2 hdots
  have h2 := (isDot_encode inSegment_stop hpercent).not.2 hdot
  unfold below
  dsimp only
  rw [if_neg (by simp [hdot, hdots]), kept_of_whole hwhole, if_neg h1, if_neg h2]

/-- Whatever is dropped, the last segment stands for no more than what is kept. -/
lemma exists_getLast?_below (hdot : s ≠ ['.']) (hdots : s ≠ ['.', '.']) :
    ∃ last t, (below ofFile special path s).getLast? = some last ∧
      Percent.decode last = Text.utf8Chars t ∧ t.length ≤ (kept s).length := by
  have appended {p : List (List Char)} {x t : List Char}
      (hx : Percent.decode x = Text.utf8Chars t) (ht : t.length ≤ (kept s).length) :
      ∃ last t, (append p x).getLast? = some last ∧ Percent.decode last = Text.utf8Chars t ∧
        t.length ≤ (kept s).length := by
    refine ⟨x, t, ?_, hx, ht⟩
    unfold append
    split <;> simp
  unfold below
  dsimp only
  rw [if_neg (by simp [hdot, hdots])]
  split_ifs
  · exact ⟨[], [], by simp_all, rfl, Nat.zero_le _⟩
  · exact ⟨[], [], by simp, rfl, Nat.zero_le _⟩
  · exact appended (t := []) rfl (Nat.zero_le _)
  · exact exists_getLast?_rooted inSegment_percent s
  · exact appended (Percent.decode_encode inSegment_percent _) (Nat.le_refl _)

lemma slashless_popEmpty (h : Slashless path) : Slashless (popEmpty path) := by
  unfold popEmpty
  split
  · exact h.of_subset (List.dropLast_subset path)
  · exact h

lemma slashless_append {x : List Char} (h : Slashless path) (hx : '/' ∉ x) :
    Slashless (append path x) := by
  unfold append
  split
  · exact slashless_singleton hx
  · exact h.append (slashless_singleton hx)

lemma slashless_below (h : Slashless path) : Slashless (below ofFile special path s) := by
  have hpop := slashless_popEmpty h
  have hnil : '/' ∉ ([] : List Char) := List.not_mem_nil
  unfold below
  dsimp only
  split_ifs
  · exact hpop
  · exact hpop
  · exact hpop.above.append (slashless_singleton hnil)
  · exact slashless_append hpop hnil
  · exact slashless_rooted (.inr inSegment_slash)
  · exact slashless_append hpop (slash_not_mem_encode (.inr inSegment_slash))

end Below

/-- A path whose text goes on behind a slash ends with what goes on. -/
lemma getLast?_of_pathChars {path : List (List Char)} (h : Slashless path) {p s : List Char}
    (hs : '/' ∉ s) (heq : pathChars path = p ++ '/' :: s) :
    path.getLast? = some s ∧ pathChars path.dropLast = p := by
  rcases List.eq_nil_or_concat path with rfl | ⟨init, last, rfl⟩
  · simp [pathChars] at heq
  · rw [List.concat_eq_append] at h heq ⊢
    rw [pathChars_append, pathChars_singleton] at heq
    obtain ⟨rfl, rfl⟩ := append_slash_inj (h last (by simp)) hs heq
    simp

variable {base : Url} {s : String}

/-- The path of a resource with a name of its own. -/
lemma path_child_of_nameable (h : Nameable base s) :
    (base.child s).path =
      shorn base.path ++ [Percent.encode (Percent.inSegment base.isSpecial) s.toList] := by
  have hdot : s.toList ≠ ['.'] := fun heq => h.ne_dot (String.toList_injective heq)
  have hdots : s.toList ≠ ['.', '.'] := fun heq => h.ne_dots (String.toList_injective heq)
  rw [child, below_of_whole h.whole hdot hdots]
  split
  · rename_i hroot
    simp only [Bool.and_eq_true, beq_iff_eq, decide_eq_true_eq] at hroot
    obtain ⟨hfile, hpop⟩ := hroot
    have hpath : base.path = [[]] := by
      by_contra hne
      rw [popEmpty_of_ne hne] at hpop
      exact shorn_ne_singleton h.not_bare hpop
    rw [rooted_of_whole (fun c hc => inSegment_of_isAlpha hc) inSegment_colon h.whole
      (h.not_drive hfile hpath), hpath]
    rfl
  · exact append_popEmpty h.not_bare _

/-- **A text with a name of its own is one more segment, which stands for it.** -/
theorem isChild_child (hpath : Slashless base.path) (h : Nameable base s) :
    base.IsChild (base.child s) s := by
  have hdot : s.toList ≠ ['.'] := fun heq => h.ne_dot (String.toList_injective heq)
  have hdots : s.toList ≠ ['.', '.'] := fun heq => h.ne_dots (String.toList_injective heq)
  refine ⟨Percent.encode (Percent.inSegment base.isSpecial) s.toList, ?_,
    slash_not_mem_encode (.inr inSegment_slash), ?_, ?_, Percent.decode_encode inSegment_percent _⟩
  · rw [path_child_of_nameable h, pathChars_append, pathChars_singleton, openPath_eq hpath]
  · exact Bool.eq_false_iff.2 ((isDot_encode inSegment_stop inSegment_percent).not.2 hdot)
  · exact Bool.eq_false_iff.2 ((isDoubleDot_encode inSegment_stop inSegment_percent).not.2 hdots)

/-! ### Texts without a name of their own -/

lemma path_child_dot (h : s = "." ∨ s = "..") : (base.child s).path = popEmpty base.path := by
  refine if_pos ?_
  rcases h with rfl | rfl
  · exact .inl rfl
  · exact .inr rfl

/-- A path that nothing is added to is not that of a resource below. -/
lemma not_isChild_of_popEmpty {u : Url} (hpath : Slashless base.path)
    (hu : u.path = popEmpty base.path) (hs : s ≠ "") : ¬ base.IsChild u s := by
  rintro ⟨segment, htext, -, -, -, hdecode⟩
  rw [hu, openPath_eq hpath] at htext
  by_cases hroot : base.path = [[]]
  · rw [hroot] at htext
    have hnil : segment = [] := (List.cons.inj htext).2.symm
    rw [hnil] at hdecode
    exact hs (String.toList_injective (Text.utf8Chars_injective hdecode.symm))
  · rw [popEmpty_of_ne hroot] at htext
    have hlength := congrArg List.length htext
    simp at hlength

/-- What has dropped characters is not the text of the last segment. -/
lemma whole_of_isChild (hpath : Slashless base.path) (hdot : s ≠ ".") (hdots : s ≠ "..")
    (h : base.IsChild (base.child s) s) : ∀ c ∈ s.toList, isDropped c = false := by
  -- the last segment stands for as many characters as are kept, which are fewer than those of `s`
  by_contra hdropped
  obtain ⟨segment, htext, hslash, -, -, hdecode⟩ := h
  obtain ⟨last, t, hlast, ht, hlength⟩ : ∃ last t,
      (base.child s).path.getLast? = some last ∧
        Percent.decode last = Text.utf8Chars t ∧ t.length ≤ (kept s.toList).length :=
    exists_getLast?_below (fun heq => hdot (String.toList_injective heq))
      (fun heq => hdots (String.toList_injective heq))
  have hsegment := (getLast?_of_pathChars (slashless_below hpath) hslash htext).1
  have hst : t = s.toList := by
    refine Text.utf8Chars_injective (ht.symm.trans (Eq.trans ?_ hdecode))
    rw [Option.some.inj (hlast.symm.trans hsegment)]
  have hlt := length_kept_lt hdropped
  rw [hst] at hlength
  omega

/-- Below two empty segments, a segment takes the place of both. -/
lemma not_bare_of_isChild (hwhole : ∀ c ∈ s.toList, isDropped c = false) (hdot : s ≠ ".")
    (hdots : s ≠ "..") (h : base.IsChild (base.child s) s) : base.path ≠ [[], []] := by
  intro hbare
  obtain ⟨segment, htext, hslash, -⟩ := h
  have hopen : base.openPath = ['/'] := by simp [openPath, hbare, pathChars]
  obtain ⟨x, hx⟩ : ∃ x, (base.child s).path = [x] := by
    rw [child, below_of_whole hwhole (fun heq => hdot (String.toList_injective heq))
      (fun heq => hdots (String.toList_injective heq)), hbare]
    split
    · exact exists_rooted_eq_singleton hwhole
    · exact ⟨_, rfl⟩
  have hslashless : Slashless (base.child s).path :=
    slashless_below (by simp [hbare, Slashless])
  rw [hx, pathChars_singleton, hopen, List.singleton_append, List.cons.injEq] at htext
  exact hslashless x (by simp [hx]) (by simp [htext.2])

/-- **A resource below an address has exactly the names that are its own.** -/
theorem isChild_child_iff (hpath : Slashless base.path) :
    base.IsChild (base.child s) s ↔ Nameable base s := by
  refine ⟨fun h => ?_, isChild_child hpath⟩
  have hdot : s ≠ "." := by
    rintro rfl
    exact not_isChild_of_popEmpty hpath (path_child_dot (.inl rfl)) (by decide) h
  have hdots : s ≠ ".." := by
    rintro rfl
    exact not_isChild_of_popEmpty hpath (path_child_dot (.inr rfl)) (by decide) h
  have hwhole := whole_of_isChild hpath hdot hdots h
  refine ⟨hwhole, hdot, hdots, not_bare_of_isChild hwhole hdot hdots h, ?_⟩
  intro hfile hroot letter hletter hdrive
  obtain ⟨segment, htext, -, -, -, hdecode⟩ := h
  have hchild : (base.child s).path = [[letter, ':']] := by
    rw [child, below_of_whole hwhole (by simp [hdrive]) (by simp [hdrive]), hroot, hdrive,
      rooted_drive hletter]
    simp [hfile, popEmpty]
  have hopen : base.openPath = [] := by simp [openPath, hroot, pathChars]
  rw [hchild, hopen, pathChars_singleton, List.nil_append, List.cons.injEq] at htext
  rw [← htext.2, decode_drive hletter, Text.utf8, hdrive] at hdecode
  have hcolon := Text.utf8Chars_injective hdecode
  simp at hcolon

/-- Whether a dot guards the path does not hang on its last segment. -/
lemma guardDot_append (u : Url) (path : List (List Char)) (x y : List Char) :
    ({ u with path := path ++ [x] } : Url).guardDot =
      ({ u with path := path ++ [y] } : Url).guardDot := by
  unfold guardDot
  cases u.authority with
  | some a => rfl
  | none =>
    match path with
    | [] => cases x <;> cases y <;> rfl
    | [] :: rest => cases rest <;> rfl
    | (_ :: _) :: _ => rfl

/-- **Two texts with names of their own never share an address.** -/
theorem text_child_injective {t : String} (hs : Nameable base s) (ht : Nameable base t)
    (h : (base.child s).text = (base.child t).text) : s = t := by
  let segment (r : String) := Percent.encode (Percent.inSegment base.isSpecial) r.toList
  have hchild {r : String} (hr : Nameable base r) :
      base.child r = { base with path := shorn base.path ++ [segment r] } :=
    congrArg (fun path => { base with path := path }) (path_child_of_nameable hr)
  have hchars := String.ofList_injective h
  rw [hchild hs, hchild ht] at hchars
  simp only [chars, target, guardDot_append base _ (segment s) (segment t), List.append_assoc,
    List.append_cancel_left_eq, List.append_cancel_right_eq, pathChars_append,
    pathChars_singleton] at hchars
  have hsegment := (List.cons.inj hchars).2
  refine String.toList_injective (Text.utf8Chars_injective ?_)
  rw [← Percent.decode_encode inSegment_percent, ← Percent.decode_encode inSegment_percent]
  exact congrArg Percent.decode hsegment

end Attestation.Url
