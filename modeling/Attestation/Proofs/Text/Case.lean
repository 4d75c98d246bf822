import Attestation.Text.Bytes
import Attestation.Text.Lowercase
import Mathlib

/-!
The case of letters and the lowered text.

Whether a letter of ASCII is a capital makes no difference to a lowered text: not where the letter
stands, and not at a sigma nearby, since both cases of the letter are cased and neither is passed
over in the search for a cased neighbour. What is lowered is left as it is when it is lowered again:
no run of the table leads to a character that a run lowers.
-/

namespace Attestation.Text

open CaseTable

/-! ### Letters of ASCII -/

/-- The other case of a letter of ASCII; other characters have none. -/
def switchCase (c : Char) : Char := if c.isUpper then c.toLower else c.toUpper

/-- The same text but for the case of some letters of ASCII. -/
def Switched (s t : String) : Prop :=
  List.Forall₂ (fun c d => d = c ∨ d = switchCase c) s.toList t.toList

lemma toLower_switchCase (c : Char) : (switchCase c).toLower = c.toLower := by
  unfold switchCase
  split <;> simp

lemma toUpper_switchCase (c : Char) : (switchCase c).toUpper = c.toUpper := by
  unfold switchCase
  split <;> simp

lemma isAlpha_switchCase (c : Char) : (switchCase c).isAlpha = c.isAlpha := by
  unfold switchCase
  split <;> simp

lemma switchCase_of_not_isAlpha {c : Char} (h : c.isAlpha = false) : switchCase c = c := by
  obtain ⟨hupper, hlower⟩ : c.isUpper = false ∧ c.isLower = false := by
    simpa [Char.isAlpha] using h
  rw [switchCase, if_neg (by simp [hupper]), Char.toUpper_eq_of_not_isLower (by simp [hlower])]

lemma toUpper_toLower {c : Char} (h : c.isUpper = true) : c.toLower.toUpper = c := by
  have hlower := Char.not_isLower_of_isUpper h
  rw [Char.toUpper_toLower_eq_toUpper, Char.toUpper_eq_of_not_isLower hlower]

/-- A character comes in two cases at most. -/
lemma eq_or_eq_switchCase_iff {c d : Char} :
    d = c ∨ d = switchCase c ↔ c.toLower = d.toLower := by
  constructor
  · rintro (rfl | rfl)
    · rfl
    · exact (toLower_switchCase c).symm
  · intro h
    by_cases hc : c.isUpper = true <;> by_cases hd : d.isUpper = true
    · left
      rw [← toUpper_toLower hc, ← toUpper_toLower hd, h]
    · right
      rw [switchCase, if_pos hc, h, Char.toLower_eq_of_not_isUpper hd]
    · right
      rw [Char.toLower_eq_of_not_isUpper hc] at h
      rw [switchCase, if_neg hc, h, toUpper_toLower hd]
    · left
      rw [Char.toLower_eq_of_not_isUpper hc, Char.toLower_eq_of_not_isUpper hd] at h
      exact h.symm

lemma switched_iff {s t : String} :
    Switched s t ↔ s.toList.map Char.toLower = t.toList.map Char.toLower := by
  unfold Switched
  simp only [eq_or_eq_switchCase_iff]
  rw [← List.forall₂_eq_eq_eq, List.forall₂_map_left_iff, List.forall₂_map_right_iff]

/-! ### The neighbours of a sigma -/

lemma isAlpha_bounds {c : Char} (h : c.isAlpha = true) :
    (65 ≤ c.toNat ∧ c.toNat ≤ 90) ∨ (97 ≤ c.toNat ∧ c.toNat ≤ 122) := by
  simpa [Char.isAlpha, Char.isUpper, Char.isLower, UInt32.le_iff_toNat_le] using h

lemma isCased_of_isAlpha {c : Char} (h : c.isAlpha = true) : isCased c = true := by
  refine List.any_eq_true.2 ?_
  rcases isAlpha_bounds h with hc | hc
  · exact ⟨(0x41, 0x5A), by decide, by simpa using hc⟩
  · exact ⟨(0x61, 0x7A), by decide, by simpa using hc⟩

/-- No letter is passed over. -/
lemma ignorable_letters : ignorable.all (fun r =>
    (r.2 < 65 || 90 < r.1) && (r.2 < 97 || 122 < r.1)) = true := by
  decide +kernel

lemma isCaseIgnorable_of_isAlpha {c : Char} (h : c.isAlpha = true) :
    isCaseIgnorable c = false := by
  refine List.any_eq_false.2 fun r hr => ?_
  have hletters := List.all_eq_true.1 ignorable_letters r hr
  have hc := isAlpha_bounds h
  simp only [Bool.and_eq_true, Bool.or_eq_true, decide_eq_true_eq] at hletters ⊢
  omega

lemma isCased_toLower (c : Char) : isCased c.toLower = isCased c := by
  by_cases hc : c.isAlpha = true
  · rw [isCased_of_isAlpha hc, isCased_of_isAlpha (by simpa using hc)]
  · rw [Char.toLower_eq_of_not_isUpper (by simp_all [Char.isAlpha])]

lemma isCaseIgnorable_toLower (c : Char) : isCaseIgnorable c.toLower = isCaseIgnorable c := by
  by_cases hc : c.isAlpha = true
  · rw [isCaseIgnorable_of_isAlpha hc, isCaseIgnorable_of_isAlpha (by simpa using hc)]
  · rw [Char.toLower_eq_of_not_isUpper (by simp_all [Char.isAlpha])]

lemma startsCased_map_toLower (s : List Char) :
    startsCased (s.map Char.toLower) = startsCased s := by
  have hignorable : isCaseIgnorable ∘ Char.toLower = isCaseIgnorable :=
    funext isCaseIgnorable_toLower
  unfold startsCased
  rw [List.dropWhile_map, hignorable]
  cases s.dropWhile isCaseIgnorable with
  | nil => rfl
  | cons c rest => exact isCased_toLower c

/-! ### Lowering either case -/

lemma lowerChar_of_isUpper {c : Char} (h : c.isUpper = true) : lowerChar c = c.toLower := by
  rw [lowerChar, if_pos h, Char.toLower_eq_of_isUpper h]

lemma lowerChar_of_ascii {c : Char} (hc : c.toNat < 0x80) : lowerChar c = c.toLower := by
  by_cases h : c.isUpper = true
  · exact lowerChar_of_isUpper h
  · rw [lowerChar, if_neg h, if_pos hc, Char.toLower_eq_of_not_isUpper h]

lemma toNat_toLower_lt {c : Char} (h : c.isAlpha = true) : c.toLower.toNat < 0x80 := by
  have halpha : c.toLower.isAlpha = true := by simpa using h
  have := isAlpha_bounds halpha
  omega

lemma lowerChar_toLower (c : Char) : lowerChar c.toLower = lowerChar c := by
  by_cases h : c.isUpper = true
  · rw [lowerChar_of_isUpper h, lowerChar_of_ascii (toNat_toLower_lt (by simp [Char.isAlpha, h])),
      Char.toLower_toLower_eq_toLower]
  · rw [Char.toLower_eq_of_not_isUpper h]

lemma lowerAt_of_ne {c : Char} (h : c ≠ 'Σ') (h' : c ≠ 'İ') (before after : List Char) :
    lowerAt before c after = [lowerChar c] := by
  rw [lowerAt, if_neg h, if_neg h']

lemma ne_of_ascii {c : Char} (hc : c.toNat < 0x80) : c ≠ 'Σ' ∧ c ≠ 'İ' := by
  constructor <;> rintro rfl <;> exact absurd hc (by decide)

lemma lowerAt_map_toLower (before : List Char) (c : Char) (after : List Char) :
    lowerAt (before.map Char.toLower) c.toLower (after.map Char.toLower) =
      lowerAt before c after := by
  by_cases h : c.isUpper = true
  · have halpha : c.isAlpha = true := by simp [Char.isAlpha, h]
    have hbounds := isAlpha_bounds halpha
    obtain ⟨h1, h2⟩ := ne_of_ascii (toNat_toLower_lt halpha)
    obtain ⟨h3, h4⟩ := ne_of_ascii (show c.toNat < 0x80 by omega)
    rw [lowerAt_of_ne h1 h2, lowerAt_of_ne h3 h4, lowerChar_toLower]
  · simp only [lowerAt, startsCased_map_toLower, Char.toLower_eq_of_not_isUpper h]

lemma lowerAfter_map_toLower (before s : List Char) :
    lowerAfter (before.map Char.toLower) (s.map Char.toLower) = lowerAfter before s := by
  induction s generalizing before with
  | nil => rfl
  | cons c s ih =>
    have hrest := ih (c :: before)
    rw [List.map_cons] at hrest
    rw [List.map_cons, lowerAfter, lowerAfter, lowerAt_map_toLower, hrest]

/-- **The case of the letters of ASCII makes no difference to the lowered text.** -/
theorem lowerChars_eq_of_switched {s t : String} (h : Switched s t) :
    lowerChars s.toList = lowerChars t.toList := by
  calc lowerChars s.toList = lowerChars (s.toList.map Char.toLower) :=
        (lowerAfter_map_toLower [] s.toList).symm
    _ = lowerChars (t.toList.map Char.toLower) := by rw [switched_iff.1 h]
    _ = lowerChars t.toList := lowerAfter_map_toLower [] t.toList

lemma lowerAfter_of_ascii (before : List Char) {s : List Char} (h : ∀ c ∈ s, isAscii c = true) :
    lowerAfter before s = s.map Char.toLower := by
  induction s generalizing before with
  | nil => rfl
  | cons c s ih =>
    obtain ⟨hc, hs⟩ := List.forall_mem_cons.1 h
    have hascii : c.toNat < 0x80 := of_decide_eq_true hc
    obtain ⟨h1, h2⟩ := ne_of_ascii hascii
    rw [lowerAfter, lowerAt_of_ne h1 h2, lowerChar_of_ascii hascii, ih _ hs]
    rfl

/-! ### Lowering again -/

namespace CaseTable.Run

variable {r s : Run} {n : ℕ}

/-- Where a run leads from one of its code points. -/
def image (r : Run) (n : ℕ) : ℕ := (n + r.shift).toNat

/-- What `r` leads to is not in `s`: it lies before or behind, or in the gaps of a run that has
only every other code point. -/
def misses (r s : Run) : Bool :=
  (r.image r.last).blt s.first || s.last.blt (r.image r.first) ||
    s.step == 2 && (r.step == 2 || r.first == r.last) && Nat.blt 0 (r.image r.first) &&
      (r.image r.first + s.first) % 2 == 1

/-- What `r` leads to are characters. -/
def leadsToChars (r : Run) : Bool :=
  (r.image r.last).blt 0xD800 || Nat.blt 0xDFFF (r.image r.first) && (r.image r.last).blt 0x110000

lemma covers_iff : r.covers n = true ↔
    r.first ≤ n ∧ n ≤ r.last ∧ (n - r.first) % r.step = 0 := by
  simp [covers, and_assoc]

lemma covers_image (hmisses : r.misses s = true) (hn : r.covers n = true) :
    s.covers (r.image n) = false := by
  obtain ⟨hfirst, hlast, hstep⟩ := covers_iff.1 hn
  refine Bool.eq_false_iff.2 fun hs => ?_
  obtain ⟨hsfirst, hslast, hsstep⟩ := covers_iff.1 hs
  simp only [misses, Bool.or_eq_true, Bool.and_eq_true, beq_iff_eq, Nat.blt_eq] at hmisses
  unfold image at *
  rcases hmisses with (hbefore | hbehind) | ⟨⟨⟨hstwo, hr⟩, hpos⟩, hodd⟩
  · omega
  · omega
  · -- both have every other code point, and they differ in the last bit
    have hparity : (n - r.first) % 2 = 0 := by
      rcases hr with hr | hr
      · rwa [hr] at hstep
      · omega
    rw [hstwo] at hsstep
    omega

lemma isValidChar_image (hleads : r.leadsToChars = true) (hn : r.covers n = true) :
    (r.image n).isValidChar := by
  obtain ⟨hfirst, hlast, -⟩ := covers_iff.1 hn
  simp only [leadsToChars, Bool.or_eq_true, Bool.and_eq_true, Nat.blt_eq] at hleads
  unfold image at *
  unfold Nat.isValidChar
  omega

end CaseTable.Run

/-- The dotted capital I as a run; the table leaves it out. -/
def dottedI : Run := ⟨0x130, 0x130, 1, 0⟩

lemma runs_miss : lowerRuns.all (fun r => (dottedI :: lowerRuns).all r.misses) = true := by
  decide +kernel

lemma runs_leadToChars : lowerRuns.all CaseTable.Run.leadsToChars = true := by
  decide +kernel

/-- Lowering leaves the character as it is, wherever it stands. -/
structure IsLow (c : Char) : Prop where
  ne_sigma : c ≠ 'Σ'
  ne_dottedI : c ≠ 'İ'
  lowerChar_eq : lowerChar c = c

lemma isLow_of_ascii {c : Char} (hc : c.toNat < 0x80) (h : c.isUpper = false) : IsLow c := by
  obtain ⟨h1, h2⟩ := ne_of_ascii hc
  exact ⟨h1, h2, by rw [lowerChar_of_ascii hc, Char.toLower_eq_of_not_isUpper (by simp [h])]⟩

/-- What no run covers is low. -/
lemma isLow_of_uncovered {c : Char} (hdotted : dottedI.covers c.toNat = false)
    (hruns : ∀ r ∈ lowerRuns, r.covers c.toNat = false) : IsLow c := by
  refine ⟨?_, ?_, ?_⟩
  · rintro rfl
    obtain ⟨r, hr, hcovers⟩ := List.any_eq_true.1
      (by decide : lowerRuns.any (·.covers 'Σ'.toNat) = true)
    exact absurd hcovers (Bool.eq_false_iff.1 (hruns r hr))
  · rintro rfl
    exact absurd hdotted (by decide)
  · have hfind : lowerRuns.find? (·.covers c.toNat) = none :=
      List.find?_eq_none.2 fun r hr => by simp [hruns r hr]
    have hupper : ¬ c.isUpper = true := fun hc => by
      have hletters : Run.covers ⟨0x41, 0x5A, 1, 0x20⟩ c.toNat = false :=
        hruns _ List.mem_cons_self
      simp only [Char.isUpper, ge_iff_le, UInt32.le_iff_toNat_le, decide_eq_true_eq] at hc
      exact absurd (Run.covers_iff.2 ⟨hc.1, hc.2, Nat.mod_one _⟩) (Bool.eq_false_iff.1 hletters)
    rw [lowerChar, if_neg hupper, hfind]
    split <;> rfl

lemma isLow_image {r : Run} (hr : r ∈ lowerRuns) {n : ℕ} (hn : r.covers n = true) :
    IsLow (Char.ofNat (r.image n)) := by
  have hmisses := List.all_eq_true.1 (List.all_eq_true.1 runs_miss r hr)
  have hvalid := Run.isValidChar_image (List.all_eq_true.1 runs_leadToChars r hr) hn
  have hnat : (Char.ofNat (r.image n)).toNat = r.image n := by rw [Char.toNat_ofNat, if_pos hvalid]
  refine isLow_of_uncovered ?_ fun s hs => ?_
  · rw [hnat]
    exact Run.covers_image (hmisses _ List.mem_cons_self) hn
  · rw [hnat]
    exact Run.covers_image (hmisses s (List.mem_cons_of_mem _ hs)) hn

/-- A character is lowered to one that is low. -/
lemma isLow_lowerChar {c : Char} (h : c ≠ 'Σ') (h' : c ≠ 'İ') : IsLow (lowerChar c) := by
  by_cases hc : c.toNat < 0x80
  · rw [lowerChar_of_ascii hc]
    refine isLow_of_ascii ?_ (by simp)
    by_cases halpha : c.isAlpha = true
    · exact toNat_toLower_lt halpha
    · rwa [Char.toLower_eq_of_not_isUpper (by simp_all [Char.isAlpha])]
  · have hupper : ¬ c.isUpper = true := fun hupper => by
      have := isAlpha_bounds (c := c) (by simp [Char.isAlpha, hupper])
      omega
    cases hfind : lowerRuns.find? (·.covers c.toNat) with
    | none =>
      have hlower : lowerChar c = c := by rw [lowerChar, if_neg hupper, if_neg hc, hfind]
      rw [hlower]
      exact ⟨h, h', hlower⟩
    | some r =>
      have hlower : lowerChar c = Char.ofNat (r.image c.toNat) := by
        rw [lowerChar, if_neg hupper, if_neg hc, hfind]
        rfl
      rw [hlower]
      have hcovers : r.covers c.toNat = true := by simpa using List.find?_some hfind
      exact isLow_image (List.mem_of_find?_eq_some hfind) hcovers

lemma isLow_of_mem_lowerAt {before after : List Char} {c : Char} :
    ∀ d ∈ lowerAt before c after, IsLow d := by
  have hlow (d : Char) (h : dottedI.covers d.toNat = false ∧
      lowerRuns.all (fun r => !r.covers d.toNat) = true) : IsLow d :=
    isLow_of_uncovered h.1 fun r hr => by simpa using List.all_eq_true.1 h.2 r hr
  unfold lowerAt
  split_ifs with hsigma hfinal hdotted
  · exact List.forall_mem_singleton.2 (hlow _ (by decide))
  · exact List.forall_mem_singleton.2 (hlow _ (by decide))
  · exact List.forall_mem_cons.2
      ⟨hlow _ (by decide), List.forall_mem_singleton.2 (hlow _ (by decide))⟩
  · exact List.forall_mem_singleton.2 (isLow_lowerChar hsigma hdotted)

lemma isLow_of_mem_lowerAfter {before s : List Char} : ∀ d ∈ lowerAfter before s, IsLow d := by
  induction s generalizing before with
  | nil => exact List.forall_mem_nil _
  | cons c s ih => exact List.forall_mem_append.2 ⟨isLow_of_mem_lowerAt, ih⟩

lemma lowerAfter_of_isLow (before : List Char) {s : List Char} (h : ∀ c ∈ s, IsLow c) :
    lowerAfter before s = s := by
  induction s generalizing before with
  | nil => rfl
  | cons c s ih =>
    obtain ⟨hc, hs⟩ := List.forall_mem_cons.1 h
    rw [lowerAfter, lowerAt_of_ne hc.ne_sigma hc.ne_dottedI, hc.lowerChar_eq, ih _ hs,
      List.singleton_append]

/-- **What is lowered is left as it is when it is lowered again.** -/
theorem lowerChars_lowerChars (s : List Char) : lowerChars (lowerChars s) = lowerChars s :=
  lowerAfter_of_isLow [] isLow_of_mem_lowerAfter

end Attestation.Text
