import Attestation.Network.Address
import Attestation.Proofs.Text.Runs
import Mathlib.Data.List.Basic

/-!
The texts of addresses.

No address has a character besides hexadecimal digits, points and colons, and no point or colon is
in a number of it. So a slash is never part of an address, and an address of version 4 stays apart
from the same address mapped into version 6.
-/

namespace Attestation

/-! ### Pieces -/

namespace Text

variable {sep : Char} {s t : List Char}

/-- What stands before the first separator is the first piece. -/
lemma splitChars_append (hs : sep ∉ s) (t : List Char) :
    splitChars (· == sep) (s ++ sep :: t) = s :: splitChars (· == sep) t := by
  induction s with
  | nil => exact splitChars_cons_of_pos (p := (· == sep)) (beq_self_eq_true sep) t
  | cons c s ih =>
    obtain ⟨hc, hs⟩ := List.ne_and_not_mem_of_not_mem_cons hs
    obtain ⟨piece, more, heq, hcons⟩ := exists_splitChars_cons
      (p := (· == sep)) (beq_eq_false_iff_ne.2 hc.symm) (s ++ sep :: t)
    rw [ih hs, List.cons.injEq] at heq
    rw [List.cons_append, hcons, ← heq.1, ← heq.2]

lemma splitChars_single (hs : sep ∉ s) : splitChars (· == sep) s = [s] := by
  induction s with
  | nil => rfl
  | cons c s ih =>
    obtain ⟨hc, hs⟩ := List.ne_and_not_mem_of_not_mem_cons hs
    obtain ⟨piece, more, heq, hcons⟩ := exists_splitChars_cons
      (p := (· == sep)) (beq_eq_false_iff_ne.2 hc.symm) s
    rw [ih hs, List.cons.injEq] at heq
    rw [hcons, ← heq.1, ← heq.2]

/-- Two pieces have one separator between them. -/
lemma splitChars_eq_pair_iff {x y : List Char} :
    splitChars (· == sep) s = [x, y] ↔ s = x ++ sep :: y ∧ sep ∉ x ∧ sep ∉ y := by
  constructor
  · intro h
    have hsep : ∀ c, (c == sep) = true → c = sep := fun c hc => beq_iff_eq.1 hc
    have hjoin := intercalate_splitChars hsep s
    have hnot (piece) (hpiece : piece ∈ splitChars (· == sep) s) : sep ∉ piece := fun hmem =>
      absurd (not_sep_of_mem_splitChars piece hpiece sep hmem) (by simp)
    rw [h] at hjoin hnot
    exact ⟨by simpa using hjoin.symm, hnot x (by simp), hnot y (by simp)⟩
  · rintro ⟨rfl, hx, hy⟩
    rw [splitChars_append hx, splitChars_single hy]

/-- A character is a separator or in a piece. -/
lemma sep_or_mem_splitChars {p : Char → Bool} {c : Char} (h : c ∈ s) :
    p c = true ∨ ∃ piece ∈ splitChars p s, c ∈ piece := by
  induction s with
  | nil => cases h
  | cons d s ih =>
    by_cases hd : p d = true
    · rcases List.mem_cons.1 h with rfl | h
      · exact .inl hd
      · rw [splitChars_cons_of_pos hd]
        exact (ih h).imp_right fun ⟨piece, hpiece, hc⟩ => ⟨piece, List.mem_cons_of_mem _ hpiece, hc⟩
    · obtain ⟨first, more, heq, hcons⟩ := exists_splitChars_cons (Bool.eq_false_iff.2 hd) s
      rw [hcons]
      rcases List.mem_cons.1 h with rfl | h
      · exact .inr ⟨_, List.mem_cons_self, List.mem_cons_self⟩
      · refine (ih h).imp_right fun ⟨piece, hpiece, hc⟩ => ?_
        rw [heq] at hpiece
        rcases List.mem_cons.1 hpiece with rfl | hpiece
        · exact ⟨_, List.mem_cons_self, List.mem_cons_of_mem _ hc⟩
        · exact ⟨piece, List.mem_cons_of_mem _ hpiece, hc⟩

end Text

/-- Everything in a list of optional values is there if the list of them is. -/
lemma exists_of_mapM_eq_some {α β : Type} {f : α → Option β} {l : List α} {r : List β}
    (h : l.mapM f = some r) : ∀ a ∈ l, ∃ b, f a = some b := by
  induction l generalizing r with
  | nil => exact fun _ ha => nomatch ha
  | cons a l ih =>
    rw [List.mapM_cons] at h
    obtain ⟨b, hb, h⟩ := Option.bind_eq_some_iff.1 h
    obtain ⟨bs, hbs, -⟩ := Option.bind_eq_some_iff.1 h
    exact List.forall_mem_cons.2 ⟨⟨b, hb⟩, ih hbs⟩

namespace Network

/-! ### Characters of addresses -/

/-- A hexadecimal digit or a point. -/
def isGroupChar (c : Char) : Bool := (Text.hexValue? c).isSome || c == '.'

lemma isGroupChar_of_isDigit {c : Char} (h : c.isDigit = true) : isGroupChar c = true := by
  have hc : '0' ≤ c ∧ c ≤ '9' := by simpa [Char.isDigit, Char.le_def] using h
  simp [isGroupChar, Text.hexValue?, hc]

lemma isDigit_of_octet? {s : List Char} {n : ℕ} (h : octet? s = some n) :
    ∀ c ∈ s, c.isDigit = true := by
  unfold octet? at h
  split at h
  · cases h
  · cases h
  · split at h
    · rename_i hs
      exact List.all_eq_true.1 hs.2
    · cases h

lemma isDigit_or_point_of_v4? {s : List Char} {a : BitVec 32} (h : v4? s = some a) :
    ∀ c ∈ s, c.isDigit = true ∨ c = '.' := by
  intro c hc
  unfold v4? at h
  split at h
  · rename_i hpieces
    rcases Text.sep_or_mem_splitChars (p := (· == '.')) hc with hpoint | ⟨piece, hpiece, hc⟩
    · exact .inr (beq_iff_eq.1 hpoint)
    · obtain ⟨n, hn⟩ := exists_of_mapM_eq_some hpieces piece hpiece
      exact .inl (isDigit_of_octet? hn c hc)
  · cases h

/-- Without a point there are no four numbers. -/
lemma point_mem_of_v4? {s : List Char} {a : BitVec 32} (h : v4? s = some a) : '.' ∈ s := by
  by_contra hpoint
  rw [v4?, Text.splitChars_single hpoint, List.mapM_cons, List.mapM_nil] at h
  cases hoctet : octet? s <;> simp [hoctet] at h

lemma isGroupChar_of_v4? {s : List Char} {a : BitVec 32} (h : v4? s = some a) :
    ∀ c ∈ s, isGroupChar c = true := by
  intro c hc
  rcases isDigit_or_point_of_v4? h c hc with hdigit | rfl
  · exact isGroupChar_of_isDigit hdigit
  · rfl

lemma isGroupChar_of_group? {s : List Char} {n : ℕ} (h : group? s = some n) :
    ∀ c ∈ s, isGroupChar c = true := by
  intro c hc
  unfold group? at h
  split at h
  · cases h
  · obtain ⟨ds, hds, -⟩ := Option.map_eq_some_iff.1 h
    obtain ⟨d, hd⟩ := exists_of_mapM_eq_some hds c hc
    simp [isGroupChar, hd]

lemma isGroupChar_of_groups? {pieces : List (List Char)} {gs : List ℕ}
    (h : groups? pieces = some gs) : ∀ piece ∈ pieces, ∀ c ∈ piece, isGroupChar c = true := by
  fun_induction groups? pieces generalizing gs with
  | case1 => exact fun _ hpiece => nomatch hpiece
  | case2 s hpoint =>
    obtain ⟨a, ha, -⟩ := Option.map_eq_some_iff.1 h
    exact List.forall_mem_singleton.2 (isGroupChar_of_v4? ha)
  | case3 s hpoint =>
    obtain ⟨g, hg, -⟩ := Option.map_eq_some_iff.1 h
    exact List.forall_mem_singleton.2 (isGroupChar_of_group? hg)
  | case4 s rest hrest ih =>
    obtain ⟨g, hg, h⟩ := Option.bind_eq_some_iff.1 h
    obtain ⟨gs, hgs, -⟩ := Option.bind_eq_some_iff.1 h
    exact List.forall_mem_cons.2 ⟨isGroupChar_of_group? hg, ih hgs⟩

/-- The characters of addresses. -/
def isAddressChar (c : Char) : Bool := isGroupChar c || c == ':'

lemma isAddressChar_of_colonPieces {s : List Char}
    (h : ∀ piece ∈ colonPieces s, ∀ c ∈ piece, isGroupChar c = true) :
    ∀ c ∈ s, isAddressChar c = true := by
  intro c hc
  rw [colonPieces, if_neg (by simp [List.ne_nil_of_mem hc])] at h
  rcases Text.sep_or_mem_splitChars (p := (· == ':')) hc with hcolon | ⟨piece, hpiece, hc⟩
  · simp [isAddressChar, beq_iff_eq.1 hcolon]
  · simp [isAddressChar, h piece hpiece c hc]

lemma eq_append_of_splitGap {s head tail : List Char} (h : splitGap s = some (head, tail)) :
    s = head ++ ':' :: ':' :: tail := by
  fun_induction splitGap s generalizing head with
  | case1 => cases h
  | case2 rest =>
    cases h
    rfl
  | case3 c rest hgap ih =>
    obtain ⟨⟨front, back⟩, hrest, heq⟩ := Option.map_eq_some_iff.1 h
    cases heq
    rw [ih hrest]
    rfl

lemma isAddressChar_of_v6? {s : List Char} {a : BitVec 128} (h : v6? s = some a) :
    ∀ c ∈ s, isAddressChar c = true := by
  unfold v6? at h
  split at h
  · obtain ⟨gs, hgs, -⟩ := Option.bind_eq_some_iff.1 h
    exact isAddressChar_of_colonPieces (isGroupChar_of_groups? hgs)
  · rename_i head tail hgap
    obtain ⟨front, hfront, h⟩ := Option.bind_eq_some_iff.1 h
    obtain ⟨back, hback, -⟩ := Option.bind_eq_some_iff.1 h
    have hhead : ∀ c ∈ head, isAddressChar c = true := by
      refine isAddressChar_of_colonPieces fun piece hpiece => ?_
      obtain ⟨g, hg⟩ := exists_of_mapM_eq_some hfront piece hpiece
      exact isGroupChar_of_group? hg
    have htail := isAddressChar_of_colonPieces (isGroupChar_of_groups? hback)
    rw [eq_append_of_splitGap hgap]
    exact List.forall_mem_append.2 ⟨hhead, List.forall_mem_cons.2
      ⟨rfl, List.forall_mem_cons.2 ⟨rfl, htail⟩⟩⟩

lemma isAddressChar_of_parse {s : List Char} {a : Address} (h : Address.parse s = some a) :
    ∀ c ∈ s, isAddressChar c = true := by
  unfold Address.parse at h
  split at h
  · rename_i b hb
    intro c hc
    simp [isAddressChar, isGroupChar_of_v4? hb c hc]
  · obtain ⟨b, hb, -⟩ := Option.map_eq_some_iff.1 h
    exact isAddressChar_of_v6? hb

/-- **No address has a slash in it.** -/
theorem slash_not_mem_of_parse {s : List Char} {a : Address} (h : Address.parse s = some a) :
    '/' ∉ s := fun hslash => absurd (isAddressChar_of_parse h '/' hslash) (by decide)

/-! ### Mapped addresses -/

/-- An address of version 4 among those of version 6. -/
def mapped (a : BitVec 32) : BitVec 128 := 0#80 ++ 0xFFFF#16 ++ a

lemma ofGroups_mapped (a : BitVec 32) :
    ofGroups ([] ++ List.replicate 5 0 ++ [0xFFFF, a.toNat / 65536, a.toNat % 65536]) =
      mapped a := by
  have ha := a.isLt
  refine BitVec.eq_of_toNat_eq ?_
  have hfold : ([] ++ List.replicate 5 0 ++ [0xFFFF, a.toNat / 65536, a.toNat % 65536]).foldl
      (fun n g => 65536 * n + g) 0 = 0xFFFF * 2 ^ 32 + a.toNat := by
    simp [List.replicate]
    omega
  rw [ofGroups, hfold, BitVec.toNat_ofNat, mapped, BitVec.toNat_append,
    ← Nat.shiftLeft_add_eq_or_of_lt ha, Nat.mod_eq_of_lt (by omega)]
  rfl

/-- **An address that is mapped into version 6 is one of version 6.** -/
theorem parse_mapped {s : List Char} {a : BitVec 32} (h : v4? s = some a) :
    Address.parse ("::ffff:".toList ++ s) = some (.v6 (mapped a)) := by
  have htext : "::ffff:".toList ++ s = ':' :: ':' :: (['f', 'f', 'f', 'f'] ++ ':' :: s) := rfl
  have hcolon : ':' ∉ s := fun hmem => by
    have := isDigit_or_point_of_v4? h ':' hmem
    simp at this
  have hfour : v4? ("::ffff:".toList ++ s) = none := by
    refine Option.eq_none_iff_forall_ne_some.2 fun b hb => ?_
    have := isDigit_or_point_of_v4? hb ':' (by simp)
    simp at this
  have hgap : splitGap ("::ffff:".toList ++ s) = some ([], ['f', 'f', 'f', 'f'] ++ ':' :: s) := by
    rw [htext, splitGap]
  have hpieces : colonPieces (['f', 'f', 'f', 'f'] ++ ':' :: s) = [['f', 'f', 'f', 'f'], s] := by
    rw [colonPieces, if_neg (by simp), Text.splitChars_eq_pair_iff]
    exact ⟨rfl, by decide, hcolon⟩
  have hback : groups? [['f', 'f', 'f', 'f'], s] =
      some [0xFFFF, a.toNat / 65536, a.toNat % 65536] := by
    have hword : group? ['f', 'f', 'f', 'f'] = some 0xFFFF := by decide
    have hpoint : s.contains '.' = true := by simpa using point_mem_of_v4? h
    rw [groups?, hword, groups?, if_pos hpoint, h]
    · rfl
    · simp
  have hsix : v6? ("::ffff:".toList ++ s) = some (mapped a) := by
    rw [v6?, hgap, ← ofGroups_mapped a]
    simp only [hpieces, hback]
    rfl
  rw [Address.parse, hfour, hsix]
  rfl

end Network

end Attestation
