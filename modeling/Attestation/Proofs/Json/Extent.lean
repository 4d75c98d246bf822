import Attestation.Proofs.Json.Literal

/-!
What a reader of JSON leaves over is the end of what it was given.

The items of an array and the members of an object are read alike: one of them, and then a comma
with more behind it or the closing mark.
-/

namespace Attestation.Json

lemma skipGap_suffix (s : List Char) : skipGap s <:+ s := List.dropWhile_suffix _

lemma suffix_of_skipGap {c : Char} {s t : List Char} (h : skipGap s = c :: t) : t <:+ s :=
  (List.suffix_cons c t).trans (h ▸ skipGap_suffix s)

lemma length_lt_of_skipGap {c : Char} {s t : List Char} (h : skipGap s = c :: t) :
    t.length < s.length := by
  have hlen := (skipGap_suffix s).length_le
  rwa [h, List.length_cons] at hlen

lemma dropWord_suffix {word s t : List Char} (h : dropWord word s = some t) : t <:+ s := by
  unfold dropWord at h
  split_ifs at h
  cases h
  exact List.drop_suffix _ _

lemma takePieces_suffix {s t : List Char} {ps : List Piece} (h : takePieces s = some (ps, t)) :
    t <:+ s := by
  fun_induction takePieces s generalizing ps with
  | case1 => cases h
  | case2 rest =>
    cases h
    exact List.suffix_cons _ _
  | case3 a b c d rest ih =>
    simp only [Option.bind_eq_bind, Option.bind_eq_some_iff] at h
    obtain ⟨_, -, _, -, _, -, _, -, ⟨qs, u⟩, hqs, heq⟩ := h
    cases heq
    exact (ih hqs).trans (List.suffix_append ['\\', 'u', a, b, c, d] rest)
  | case4 c rest _ ih =>
    simp only [Option.bind_eq_bind, Option.bind_eq_some_iff] at h
    obtain ⟨_, -, ⟨qs, u⟩, hqs, heq⟩ := h
    cases heq
    exact (ih hqs).trans (List.suffix_append ['\\', c] rest)
  | case5 => cases h
  | case6 c rest _ _ _ _ ih =>
    simp only [Option.bind_eq_bind, Option.bind_eq_some_iff] at h
    obtain ⟨⟨qs, u⟩, hqs, heq⟩ := h
    cases heq
    exact (ih hqs).trans (List.suffix_cons c rest)

variable {join : List Piece → Option String}

lemma takeString_suffix {s t : List Char} {x : Option String}
    (h : takeString join s = some (x, t)) : t <:+ s := by
  obtain ⟨⟨ps, t'⟩, hps, heq⟩ := Option.map_eq_some_iff.1 h
  cases heq
  exact takePieces_suffix hps

/-! ### Lists -/

/-- Reads on behind `a`: more of a list after a comma, or the mark that closes it. -/
def takeMore {α : Type} (close : Char) (more : List Char → Option (List α × List Char)) (a : α)
    (s : List Char) : Option (List α × List Char) :=
  match skipGap s with
  | [] => none
  | c :: t =>
    if c = ',' then (more t).map fun (rest, t) => (a :: rest, t)
    else if c = close then some ([a], t)
    else none

/-- A key, a colon and a value. -/
def takeMember (join : List Piece → Option String) (fuel d : ℕ) (s : List Char) :
    Option ((Option String × Draft) × List Char) :=
  match skipGap s with
  | '"' :: s =>
    (takeString join s).bind fun (k, s) =>
      match skipGap s with
      | ':' :: s => (takeValue join fuel d s).map fun (v, s) => ((k, v), s)
      | _ => none
  | _ => none

lemma takeItems_eq (fuel d : ℕ) (s : List Char) : takeItems join (fuel + 1) d s =
    (takeValue join fuel d s).bind fun (v, r) => takeMore ']' (takeItems join fuel d) v r := by
  rw [takeItems]
  refine congrArg _ (funext fun ⟨v, r⟩ => ?_)
  dsimp only
  unfold takeMore
  cases skipGap r with
  | nil => rfl
  | cons c t =>
    by_cases hcomma : c = ','
    · simp [hcomma, Option.map_eq_bind]
    by_cases hclosed : c = ']'
    · simp [hclosed]
    · simp [hcomma, hclosed]

lemma takeMembers_eq (fuel d : ℕ) (s : List Char) : takeMembers join (fuel + 1) d s =
    (takeMember join fuel d s).bind fun (m, r) =>
      takeMore '\x7d' (takeMembers join fuel d) m r := by
  rw [takeMembers, takeMember]
  cases skipGap s with
  | nil => rfl
  | cons e t =>
    by_cases hquote : e = '"'
    · subst hquote
      simp only [Option.bind_eq_bind, Option.bind_assoc]
      refine congrArg _ (funext fun x => ?_)
      cases skipGap x.2 with
      | nil => rfl
      | cons e w =>
        by_cases hcolon : e = ':'
        · subst hcolon
          simp only [Option.map_eq_bind, Option.bind_assoc, Function.comp_apply, Option.bind_some]
          refine congrArg _ (funext fun y => ?_)
          unfold takeMore
          cases skipGap y.2 with
          | nil => rfl
          | cons c t =>
            by_cases hcomma : c = ','
            · simp [hcomma, Option.map_eq_bind]
            by_cases hclosed : c = '\x7d'
            · simp [hclosed]
            · simp [hcomma, hclosed]
        · simp [hcolon]
    · simp [hquote]

lemma takeMore_suffix {α : Type} {close : Char} {more : List Char → Option (List α × List Char)}
    {a : α} {as : List α} {s t : List Char} (hmore : ∀ {u as t}, more u = some (as, t) → t <:+ u)
    (h : takeMore close more a s = some (as, t)) : t <:+ s := by
  unfold takeMore at h
  split at h
  · cases h
  · rename_i c u hu
    refine List.IsSuffix.trans ?_ (suffix_of_skipGap hu)
    split_ifs at h
    · obtain ⟨⟨bs, r⟩, hbs, heq⟩ := Option.map_eq_some_iff.1 h
      cases heq
      exact hmore hbs
    · cases h
      exact List.suffix_rfl

/-! ### What is left over -/

/-- What is left over by the readers with some fuel is the end of what they were given. -/
structure Ends (join : List Piece → Option String) (fuel : ℕ) : Prop where
  value {d : ℕ} {s t : List Char} {v : Draft} (h : takeValue join fuel d s = some (v, t)) : t <:+ s
  items {d : ℕ} {s t : List Char} {vs : List Draft} (h : takeItems join fuel d s = some (vs, t)) :
    t <:+ s
  members {d : ℕ} {s t : List Char} {ms : List (Option String × Draft)}
    (h : takeMembers join fuel d s = some (ms, t)) : t <:+ s

section Step

variable {fuel d : ℕ} {s t : List Char} (ih : Ends join fuel)

include ih

lemma takeValue_suffix {v : Draft} (h : takeValue join (fuel + 1) d s = some (v, t)) : t <:+ s := by
  rw [takeValue] at h
  split at h
  · cases h
  · rename_i u hu
    obtain ⟨⟨x, r⟩, hx, heq⟩ := Option.map_eq_some_iff.1 h
    cases heq
    exact (takeString_suffix hx).trans (suffix_of_skipGap hu)
  · rename_i u hu
    refine List.IsSuffix.trans ?_ (suffix_of_skipGap hu)
    split at h
    · cases h
      exact suffix_of_skipGap ‹_›
    · obtain ⟨⟨vs, r⟩, hvs, heq⟩ := Option.map_eq_some_iff.1 h
      cases heq
      exact (ih.items hvs).trans (skipGap_suffix u)
  · rename_i u hu
    refine List.IsSuffix.trans ?_ (suffix_of_skipGap hu)
    split at h
    · cases h
      exact suffix_of_skipGap ‹_›
    · obtain ⟨⟨ms, r⟩, hms, heq⟩ := Option.map_eq_some_iff.1 h
      cases heq
      exact (ih.members hms).trans (skipGap_suffix u)
  all_goals
    obtain ⟨r, hr, heq⟩ := Option.map_eq_some_iff.1 h
    cases heq
  · exact (dropWord_suffix hr).trans (suffix_of_skipGap ‹_›)
  · exact (dropWord_suffix hr).trans (suffix_of_skipGap ‹_›)
  · exact (dropWord_suffix hr).trans (suffix_of_skipGap ‹_›)
  · exact (takeLiteral_suffix hr).trans (skipGap_suffix s)

lemma takeItems_suffix {vs : List Draft} (h : takeItems join (fuel + 1) d s = some (vs, t)) :
    t <:+ s := by
  rw [takeItems_eq] at h
  obtain ⟨⟨v, r⟩, hv, h⟩ := Option.bind_eq_some_iff.1 h
  exact (takeMore_suffix ih.items h).trans (ih.value hv)

lemma takeMember_suffix {m : Option String × Draft} (h : takeMember join fuel d s = some (m, t)) :
    t <:+ s := by
  unfold takeMember at h
  split at h
  · rename_i u hu
    refine List.IsSuffix.trans ?_ (suffix_of_skipGap hu)
    obtain ⟨⟨k, r⟩, hk, h⟩ := Option.bind_eq_some_iff.1 h
    refine List.IsSuffix.trans ?_ (takeString_suffix hk)
    dsimp only at h
    split at h
    · rename_i w hw
      obtain ⟨⟨v, r'⟩, hv, heq⟩ := Option.map_eq_some_iff.1 h
      cases heq
      exact (ih.value hv).trans (suffix_of_skipGap hw)
    · cases h
  · cases h

lemma takeMembers_suffix {ms : List (Option String × Draft)}
    (h : takeMembers join (fuel + 1) d s = some (ms, t)) : t <:+ s := by
  rw [takeMembers_eq] at h
  obtain ⟨⟨m, r⟩, hm, h⟩ := Option.bind_eq_some_iff.1 h
  exact (takeMore_suffix ih.members h).trans (takeMember_suffix ih hm)

end Step

/-- **What a reader leaves over is the end of what it was given.** -/
theorem ends (join : List Piece → Option String) (fuel : ℕ) : Ends join fuel := by
  induction fuel with
  | zero => constructor <;> (intro _ _ _ _ h; cases h)
  | succ fuel ih => exact ⟨takeValue_suffix ih, takeItems_suffix ih, takeMembers_suffix ih⟩

end Attestation.Json
