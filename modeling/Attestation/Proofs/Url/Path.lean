import Attestation.Proofs.Url.Percent
import Attestation.Proofs.Text.Runs
import Attestation.Url.Parser

/-!
The text of a path tells its segments: no segment of an address that was read holds a slash.
-/

namespace Attestation.Url

/-- No segment holds a slash. -/
def Slashless (path : List (List Char)) : Prop := ∀ segment ∈ path, '/' ∉ segment

lemma slashless_nil : Slashless [] := by simp [Slashless]

lemma slashless_singleton {s : List Char} (h : '/' ∉ s) : Slashless [s] := by
  simpa [Slashless] using h

lemma Slashless.append {p q : List (List Char)} (hp : Slashless p) (hq : Slashless q) :
    Slashless (p ++ q) :=
  List.forall_mem_append.2 ⟨hp, hq⟩

lemma Slashless.of_subset {p q : List (List Char)} (hq : Slashless q) (h : p ⊆ q) : Slashless p :=
  fun s hs => hq s (h hs)

lemma Slashless.above {path : List (List Char)} (h : Slashless path) : Slashless (above path) := by
  unfold Url.above
  split
  · exact h
  · exact h.of_subset (List.dropLast_subset path)

/-! ### Segments that are read -/

section Reading

variable {keep : Char → Bool} {s : List Char}

lemma slash_not_mem_encode (h : '/' ∉ s ∨ keep '/' = false) : '/' ∉ Percent.encode keep s := by
  intro hmem
  obtain ⟨hs, hk⟩ := Percent.mem_of_mem_encode (by decide) (by decide) hmem
  rcases h with h | h
  · exact h hs
  · simp [h] at hk

lemma slashless_rooted (h : '/' ∉ kept s ∨ keep '/' = false) : Slashless (rooted keep s) := by
  have drive {c : Char} (hc : c.isAlpha = true) : '/' ∉ [c, ':'] := by
    simp only [List.mem_cons, List.not_mem_nil, or_false, not_or]
    refine ⟨?_, by decide⟩
    rintro rfl
    simp at hc
  have part {t : List Char} (ht : t ⊆ kept s) : '/' ∉ Percent.encode keep t :=
    slash_not_mem_encode (h.imp_left fun hs hmem => hs (ht hmem))
  unfold rooted
  dsimp only
  split
  · rename_i c mark heq
    split
    · rename_i hdrive
      simp only [isDrive, Bool.and_eq_true] at hdrive
      exact slashless_singleton (drive hdrive.1)
    · exact slashless_singleton (part (heq ▸ List.Subset.refl _))
  · rename_i c rest _ heq
    split
    · rename_i hapart
      rw [Bool.and_eq_true] at hapart
      have hrest : rest ⊆ kept s := by
        rw [heq]
        exact fun d hd => List.mem_cons_of_mem _ (List.mem_cons_of_mem _ hd)
      exact (slashless_singleton (drive hapart.1)).append (slashless_singleton (part hrest))
    · exact slashless_singleton (part (heq ▸ List.Subset.refl _))
  · exact slashless_singleton (part (List.Subset.refl _))

lemma kept_subset (s : List Char) : kept s ⊆ s := (List.filter_sublist).subset

lemma slashless_resolve {ofFile : Bool} {segments done : List (List Char)}
    (hdone : Slashless done) (h : Slashless segments) :
    Slashless (resolve ofFile done segments) := by
  induction segments generalizing done with
  | nil => exact hdone
  | cons s rest ih =>
    obtain ⟨hs, hrest⟩ := List.forall_mem_cons.1 h
    have hkept : '/' ∉ kept s := fun hmem => hs (kept_subset s hmem)
    have hending : Slashless (if rest.isEmpty then [[]] else []) := by
      split
      · exact slashless_singleton List.not_mem_nil
      · exact slashless_nil
    rw [resolve]
    generalize (if rest.isEmpty then ([[]] : List (List Char)) else []) = ending at hending ⊢
    split_ifs
    · exact ih (hdone.above.append hending) hrest
    · exact ih (hdone.append hending) hrest
    · exact ih (slashless_rooted (.inl hkept)) hrest
    · exact ih (hdone.append (slashless_singleton (slash_not_mem_encode (.inl hkept)))) hrest

lemma slashless_splitChars {special : Bool} : Slashless (Text.splitChars (isSlash special) s) := by
  intro segment hsegment hslash
  have hsep := Text.not_sep_of_mem_splitChars segment hsegment '/' hslash
  simp [isSlash] at hsep

end Reading

lemma slashless_readPath (special : Bool) (s : List Char) : Slashless (readPath special s) := by
  unfold readPath
  split
  · split
    · exact slashless_singleton List.not_mem_nil
    · exact slashless_nil
  · exact slashless_resolve slashless_nil slashless_splitChars

lemma slashless_finish (scheme : List Char) (authority : Option Authority) (s : List Char) :
    Slashless (finish scheme authority s).path :=
  slashless_readPath _ _

lemma slashless_finishFile (host : Option Host) (s : List Char) :
    Slashless (finishFile host s).path := by
  have hpath : Slashless (resolve true [] (Text.splitChars (isSlash true) (splitPath s).1)) :=
    slashless_resolve slashless_nil slashless_splitChars
  unfold finishFile
  dsimp only
  split
  · exact slashless_singleton List.not_mem_nil
  · exact hpath.of_subset (List.dropWhile_sublist _).subset

lemma slashless_readAuthority {scheme s : List Char} {u : Url}
    (h : readAuthority scheme s = some u) : Slashless u.path := by
  unfold readAuthority at h
  simp only [Option.bind_eq_bind, Option.pure_def, Option.bind_none,
    Option.ite_none_left_eq_some] at h
  obtain ⟨-, h⟩ := h
  split at h <;>
  · simp only [Option.bind_eq_some_iff, Option.ite_none_left_eq_some, Option.some.injEq] at h
    obtain ⟨host, -, -, port, -, rfl⟩ := h
    exact slashless_finish _ _ _

lemma slashless_readFile {s : List Char} {u : Url} (h : readFile s = some u) :
    Slashless u.path := by
  have file {host : Option Host} {t : List Char} (h : some (finishFile host t) = some u) :
      Slashless u.path :=
    Option.some.inj h ▸ slashless_finishFile host t
  unfold readFile at h
  split at h
  · split at h
    · simp only [Option.bind_eq_bind, Option.pure_def] at h
      split at h
      · exact file h
      · obtain ⟨host, -, h⟩ := Option.bind_eq_some_iff.1 h
        split at h
        · exact file h
        · exact file h
    · exact file h
  · exact file h

/-- **No segment of an address that was read holds a slash.** -/
theorem slashless_parse {s : List Char} {u : Url} (h : parse s = .ok u) : Slashless u.path := by
  have found {o : Option Url} (ho : ∀ v, o = some v → Slashless v.path)
      (h : o.elim (.error .malformed) .ok = (.ok u : Except Fault Url)) : Slashless u.path := by
    cases o with
    | none => cases h
    | some v =>
      cases h
      exact ho u rfl
  unfold parse at h
  dsimp only at h
  split at h
  · cases h
  · split_ifs at h
    · exact found (fun v => slashless_readFile) h
    · exact found (fun v => slashless_readAuthority) h
    · split at h
      · exact found (fun v => slashless_readAuthority) h
      · cases h
        exact slashless_finish _ _ _
      · cases h

/-! ### Segments in the text -/

/-- A path tells its last segment. -/
lemma append_slash_inj {p q s t : List Char} (hs : '/' ∉ s) (ht : '/' ∉ t)
    (h : p ++ '/' :: s = q ++ '/' :: t) : p = q ∧ s = t := by
  have run {p s : List Char} (hs : '/' ∉ s) :
      ((p ++ '/' :: s).reverse.takeWhile (· != '/')) = s.reverse ∧
        ((p ++ '/' :: s).reverse.dropWhile (· != '/')) = '/' :: p.reverse := by
    rw [List.reverse_append, List.reverse_cons, List.append_assoc, List.singleton_append]
    refine Text.takeWhile_run (fun c hc => ?_) (by simp)
    have hne : c ≠ '/' := by
      rintro rfl
      exact hs (List.mem_reverse.1 hc)
    simpa using hne
  obtain ⟨h1, h2⟩ := run (p := p) hs
  rw [h, (run ht).1] at h1
  rw [h, (run ht).2, List.cons.injEq] at h2
  exact ⟨(List.reverse_inj.1 h2.2).symm, (List.reverse_inj.1 h1).symm⟩

lemma pathChars_append (p q : List (List Char)) : pathChars (p ++ q) = pathChars p ++ pathChars q :=
  List.flatMap_append

lemma pathChars_singleton (s : List Char) : pathChars [s] = '/' :: s := by simp [pathChars]

end Attestation.Url
