import Attestation.Proofs.Computation
import Attestation.Proofs.Encoding.ByteRuns
import Mathlib.Data.List.Forall2
import Mathlib.Logic.Relation

/-!
The scan of a key document by the positions of its bytes.

It keeps the position it has come to, and the labels and the body it has found on the way; the body
has one character for each byte. It looks at bytes alone, and so comes to positions inside of
characters, but it cuts the labels out of the text. What one turn of it can do is said once, by
`fits_turn`: a turn takes the next run off the bytes ahead. That it always goes on, never cuts a
character in two and accounts for every byte it has passed is kept from turn to turn.
-/

namespace Attestation.Pem

/-- Where the scan has come to, and what it has found. -/
structure Scan where
  position : ℕ
  labels : List String
  body : List Char
  deriving DecidableEq, Repr

namespace Scan

def start : Scan := ⟨0, [], []⟩

/-- Where the stretch of bytes of a kind ends that begins at a position. -/
def skipWhile (p : Char → Bool) (bytes : List UInt8) (i : ℕ) : ℕ :=
  if h : i < bytes.length then
    if p (.ofUInt8 bytes[i]) then skipWhile p bytes (i + 1) else i
  else i
termination_by bytes.length - i

/-- Where the three stretches of an armor run end. -/
structure ArmorEnds where
  opening : ℕ
  label : ℕ
  closing : ℕ

def ends (pem : String) (x : Scan) : ArmorEnds :=
  let bytes := Text.utf8 pem
  let opening := skipWhile isDash bytes x.position
  let label := skipWhile isLabelChar bytes opening
  ⟨opening, label, skipWhile isDash bytes label⟩

/-- What a turn of the scan comes to. It is stuck when a label cannot be cut out. -/
inductive Turn where
  | finished
  | refused (fault : PemFault)
  | stuck
  | moved (next : Scan)

def turn (pem : String) (x : Scan) : Turn :=
  match (Text.utf8 pem)[x.position]? with
  | none => .finished
  | some b =>
    let c := Char.ofUInt8 b
    if isDash c then
      let ends := x.ends pem
      if ends.label = ends.opening ∨ ends.closing = ends.label then .refused .malformedArmor
      else
        match Text.cut? pem ends.opening ends.label with
        | none => .stuck
        | some label => .moved ⟨ends.closing, x.labels ++ [Text.trim label], x.body⟩
    else if Text.isAsciiSpace c then .moved ⟨x.position + 1, x.labels, x.body⟩
    else .moved ⟨x.position + 1, x.labels, x.body ++ [c]⟩

/-! ### Stretches -/

section Stretches

variable {p : Char → Bool} {bytes : List UInt8} {i : ℕ}

/-- The bytes of a kind from a position on. -/
def stretch (p : Char → Bool) (bytes : List UInt8) (i : ℕ) : List UInt8 :=
  (bytes.drop i).takeWhile (p ∘ Char.ofUInt8)

lemma stretch_of_pos (hi : i < bytes.length) (hp : p (.ofUInt8 bytes[i]) = true) :
    stretch p bytes i = bytes[i] :: stretch p bytes (i + 1) := by
  rw [stretch, List.drop_eq_getElem_cons hi]
  exact List.takeWhile_cons_of_pos hp

lemma stretch_of_neg (hi : i < bytes.length) (hp : ¬ p (.ofUInt8 bytes[i]) = true) :
    stretch p bytes i = [] := by
  rw [stretch, List.drop_eq_getElem_cons hi]
  exact List.takeWhile_cons_of_neg hp

lemma stretch_of_le (hi : ¬ i < bytes.length) : stretch p bytes i = [] := by
  rw [stretch, List.drop_eq_nil_of_le (Nat.le_of_not_lt hi), List.takeWhile_nil]

lemma of_mem_stretch {b : UInt8} (h : b ∈ stretch p bytes i) : p (.ofUInt8 b) = true :=
  List.mem_takeWhile_imp (p := p ∘ Char.ofUInt8) h

/-- Skipping goes to the end of the stretch. -/
lemma skipWhile_eq : skipWhile p bytes i = i + (stretch p bytes i).length := by
  fun_induction skipWhile p bytes i with
  | case1 i hi hp ih =>
    rw [ih, stretch_of_pos hi hp, List.length_cons]
    omega
  | case2 i hi hp => rw [stretch_of_neg hi hp, List.length_nil, Nat.add_zero]
  | case3 i hi => rw [stretch_of_le hi, List.length_nil, Nat.add_zero]

lemma skipWhile_eq_self_iff : skipWhile p bytes i = i ↔ stretch p bytes i = [] := by
  rw [skipWhile_eq, ← List.length_eq_zero_iff]
  omega

lemma drop_skipWhile : bytes.drop (skipWhile p bytes i) =
    (bytes.drop i).dropWhile (p ∘ Char.ofUInt8) := by
  have hsplit : stretch p bytes i ++ (bytes.drop i).dropWhile (p ∘ Char.ofUInt8) = bytes.drop i :=
    List.takeWhile_append_dropWhile
  rw [skipWhile_eq, ← List.drop_drop]
  conv_lhs => rw [← hsplit]
  exact List.drop_left

lemma stretch_append_drop :
    stretch p bytes i ++ bytes.drop (skipWhile p bytes i) = bytes.drop i := by
  rw [drop_skipWhile]
  exact List.takeWhile_append_dropWhile

lemma takeWhile_drop : ((bytes.drop i).map Char.ofUInt8).takeWhile p =
    (stretch p bytes i).map Char.ofUInt8 :=
  List.takeWhile_map

lemma dropWhile_drop : ((bytes.drop i).map Char.ofUInt8).dropWhile p =
    (bytes.drop (skipWhile p bytes i)).map Char.ofUInt8 := by
  rw [drop_skipWhile, List.dropWhile_map]

/-- A stretch of ASCII ends where the text may be cut if it begins there. -/
lemma isValid_skipWhile {pem : String} (hp : ∀ c, p c = true → Text.isAscii c = true)
    (hi : String.Pos.Raw.IsValid pem ⟨i⟩) :
    String.Pos.Raw.IsValid pem ⟨skipWhile p (Text.utf8 pem) i⟩ := by
  fun_induction skipWhile p (Text.utf8 pem) i with
  | case1 i hlt hpi ih =>
    -- the byte is a character of its own, so the next position is a boundary again
    exact ih (Text.isValid_of_ascii (List.getElem?_eq_getElem hlt) (hp _ hpi)).2
  | case2 i hlt hpi => exact hi
  | case3 i hlt => exact hi

end Stretches

/-! ### One turn -/

/-- The bytes a run is made of. -/
inductive Covers : Token → List UInt8 → Prop
  | armor {opening label closing : List UInt8} (hopening : opening ≠ []) (hlabel : label ≠ [])
    (hclosing : closing ≠ []) (hdashes : ∀ b ∈ opening ++ closing, isDash (.ofUInt8 b) = true)
    (hwords : ∀ b ∈ label, isLabelChar (.ofUInt8 b) = true) :
    Covers (.armor (label.map Char.ofUInt8)) (opening ++ (label ++ closing))
  | gap {b : UInt8} (hspace : Text.isAsciiSpace (.ofUInt8 b) = true) :
    Covers (.gap (.ofUInt8 b)) [b]
  | body {b : UInt8} (hdash : isDash (.ofUInt8 b) = false)
    (hspace : Text.isAsciiSpace (.ofUInt8 b) = false) : Covers (.body (.ofUInt8 b)) [b]

/-- The label is in the text, and the text may be cut on both sides of it. -/
structure ArmorEnds.InBounds (pem : String) (ends : ArmorEnds) : Prop where
  le_label : ends.opening ≤ ends.label
  label_le : ends.label ≤ (Text.utf8 pem).length
  opening_valid : String.Pos.Raw.IsValid pem ⟨ends.opening⟩
  label_valid : String.Pos.Raw.IsValid pem ⟨ends.label⟩

/-- The bytes from the position on, each as the character of its number. -/
def ahead (pem : String) (x : Scan) : List Char :=
  ((Text.utf8 pem).drop x.position).map Char.ofUInt8

/-- What the scan takes off the bytes ahead when it moves on, and what it keeps of it. -/
structure Takes (pem : String) (x y : Scan) (t : Token) (piece : List UInt8) : Prop where
  token : token? (ahead pem x) = some (.ok (t, ahead pem y))
  covers : Covers t piece
  drop : (Text.utf8 pem).drop x.position = piece ++ (Text.utf8 pem).drop y.position
  position : y.position = x.position + piece.length
  labels : y.labels = x.labels ++ (Pem.labels [t]).map String.ofList
  body : y.body = x.body ++ bodyChars [t]

variable {pem : String} {x y : Scan} {b : UInt8}

lemma ahead_of_getElem? (hb : (Text.utf8 pem)[x.position]? = some b) : ahead pem x =
    .ofUInt8 b :: ((Text.utf8 pem).drop (x.position + 1)).map Char.ofUInt8 := by
  obtain ⟨hlt, rfl⟩ := List.getElem?_eq_some_iff.1 hb
  rw [ahead, List.drop_eq_getElem_cons hlt, List.map_cons]

lemma inBounds_ends (hb : (Text.utf8 pem)[x.position]? = some b)
    (hdash : isDash (.ofUInt8 b) = true) : (x.ends pem).InBounds pem := by
  have hopening : String.Pos.Raw.IsValid pem ⟨(x.ends pem).opening⟩ :=
    isValid_skipWhile isAscii_of_isDash (Text.isValid_of_ascii hb (isAscii_of_isDash _ hdash)).1
  have hlabel : String.Pos.Raw.IsValid pem ⟨(x.ends pem).label⟩ :=
    isValid_skipWhile isAscii_of_isLabelChar hopening
  refine ⟨?_, Text.le_length_of_isValid hlabel, hopening, hlabel⟩
  rw [ends, skipWhile_eq (p := isLabelChar)]
  exact Nat.le_add_right _ _

/-- The bytes of the label, if armor begins at the position. -/
def label (pem : String) (x : Scan) : List UInt8 :=
  stretch isLabelChar (Text.utf8 pem) (x.ends pem).opening

/-- The dashes behind the label. -/
def closing (pem : String) (x : Scan) : List UInt8 :=
  stretch isDash (Text.utf8 pem) (x.ends pem).label

lemma isLabelChar_of_mem_label : ∀ c ∈ (x.label pem).map Char.ofUInt8, isLabelChar c = true :=
  List.forall_mem_map.2 fun _ hb => of_mem_stretch hb

/-- The label can be cut out. -/
lemma cut?_ends (h : (x.ends pem).InBounds pem) :
    Text.cut? pem (x.ends pem).opening (x.ends pem).label =
      some (.ofList ((x.label pem).map Char.ofUInt8)) := by
  have hends : (x.ends pem).label = (x.ends pem).opening + (x.label pem).length := skipWhile_eq
  have hvalid := h.label_valid
  rw [hends] at hvalid ⊢
  exact Text.cut?_of_ascii h.opening_valid hvalid stretch_append_drop.symm
    fun b hb => isAscii_of_isLabelChar _ (of_mem_stretch hb)

/-- At a dash the stretches of an armor run decide what the turn comes to. -/
lemma turn_of_dash (hb : (Text.utf8 pem)[x.position]? = some b)
    (hdash : isDash (.ofUInt8 b) = true) : turn pem x =
      if x.label pem = [] ∨ x.closing pem = [] then .refused .malformedArmor
      else .moved ⟨(x.ends pem).closing, x.labels ++
        (Pem.labels [.armor ((x.label pem).map Char.ofUInt8)]).map String.ofList, x.body⟩ := by
  have hlabel : (x.ends pem).label = (x.ends pem).opening ↔ x.label pem = [] :=
    skipWhile_eq_self_iff
  have hclosing : (x.ends pem).closing = (x.ends pem).label ↔ x.closing pem = [] :=
    skipWhile_eq_self_iff
  have htrim : Text.trim (.ofList ((x.label pem).map Char.ofUInt8)) =
      .ofList (Text.stripWhile (· == ' ') ((x.label pem).map Char.ofUInt8)) := by
    rw [Text.trim, String.toList_ofList,
      strip_label fun c hc => isLabelChar_iff.1 (isLabelChar_of_mem_label c hc)]
  simp only [turn, hb, hdash, if_true, cut?_ends (inBounds_ends hb hdash), hlabel, hclosing, htrim]
  rfl

/-- The same stretches make the next run. -/
lemma token?_ahead_of_dash (hb : (Text.utf8 pem)[x.position]? = some b)
    (hdash : isDash (.ofUInt8 b) = true) : token? (ahead pem x) =
      if x.label pem = [] ∨ x.closing pem = [] then some (.error .malformedArmor)
      else some (.ok (.armor ((x.label pem).map Char.ofUInt8),
        ((Text.utf8 pem).drop (x.ends pem).closing).map Char.ofUInt8)) := by
  have hahead := ahead_of_getElem? hb
  rw [beq_iff_eq.1 hdash] at hahead
  rw [hahead, token?_of_dash]
  dsimp only
  rw [← hahead, ahead, dropWhile_drop, takeWhile_drop, dropWhile_drop, takeWhile_drop,
    dropWhile_drop]
  simp only [List.map_eq_nil_iff]
  rfl

/-- An armor run is taken as a whole. -/
lemma takes_armor (hb : (Text.utf8 pem)[x.position]? = some b)
    (hdash : isDash (.ofUInt8 b) = true) (hparts : ¬ (x.label pem = [] ∨ x.closing pem = [])) :
    Takes pem x ⟨(x.ends pem).closing, x.labels ++
        (Pem.labels [.armor ((x.label pem).map Char.ofUInt8)]).map String.ofList, x.body⟩
      (.armor ((x.label pem).map Char.ofUInt8))
      (stretch isDash (Text.utf8 pem) x.position ++ (x.label pem ++ x.closing pem)) where
  token := (token?_ahead_of_dash hb hdash).trans (if_neg hparts)
  covers := by
    obtain ⟨hlt, hget⟩ := List.getElem?_eq_some_iff.1 hb
    obtain ⟨hlabel, hclosing⟩ := not_or.1 hparts
    have hopening : stretch isDash (Text.utf8 pem) x.position ≠ [] := by
      rw [stretch_of_pos hlt (hget ▸ hdash)]
      exact List.cons_ne_nil _ _
    refine .armor hopening hlabel hclosing ?_ fun b hb => of_mem_stretch hb
    exact List.forall_mem_append.2 ⟨fun b hb => of_mem_stretch hb, fun b hb => of_mem_stretch hb⟩
  drop := by
    rw [List.append_assoc, List.append_assoc, closing, ends, stretch_append_drop, label, ends,
      stretch_append_drop, stretch_append_drop]
  position := by
    rw [List.length_append, List.length_append, ← Nat.add_assoc, ← Nat.add_assoc, ← skipWhile_eq,
      label, ends, ← skipWhile_eq, closing, ends, ← skipWhile_eq]
  labels := rfl
  body := (List.append_nil _).symm

/-- Any other byte is kept if it is no white space. -/
lemma turn_of_not_dash (hb : (Text.utf8 pem)[x.position]? = some b)
    (hdash : isDash (.ofUInt8 b) = false) : turn pem x =
      .moved ⟨x.position + 1, x.labels, x.body ++ bodyChars [single (.ofUInt8 b)]⟩ := by
  cases hspace : Text.isAsciiSpace (.ofUInt8 b) <;>
    simp [turn, hb, hdash, hspace, single, bodyChars]

lemma covers_single (hdash : isDash (.ofUInt8 b) = false) : Covers (single (.ofUInt8 b)) [b] := by
  unfold single
  split_ifs with hspace
  · exact .gap hspace
  · exact .body hdash (Bool.eq_false_iff.2 hspace)

/-- It is taken by itself. -/
lemma takes_single (hb : (Text.utf8 pem)[x.position]? = some b)
    (hdash : isDash (.ofUInt8 b) = false) :
    Takes pem x ⟨x.position + 1, x.labels, x.body ++ bodyChars [single (.ofUInt8 b)]⟩
      (single (.ofUInt8 b)) [b] where
  token := by
    rw [ahead_of_getElem? hb]
    exact token?_single (isDash_eq_false_iff.1 hdash)
  covers := covers_single hdash
  drop := by
    obtain ⟨hlt, hget⟩ := List.getElem?_eq_some_iff.1 hb
    rw [List.drop_eq_getElem_cons hlt, hget, List.singleton_append]
  position := rfl
  labels := by rw [← List.map_singleton, labels_single, List.map_nil, List.append_nil]
  body := rfl

/-- What a turn has to do with the next run of the bytes ahead. -/
def Turn.Fits (pem : String) (x : Scan) : Turn → Prop
  | .finished => token? (ahead pem x) = none
  | .refused fault => token? (ahead pem x) = some (.error fault)
  | .stuck => False
  | .moved y => ∃ t piece, Takes pem x y t piece

/-- **All a turn can do.** The scan ends with the bytes, refuses them, or takes the next run off
them; it is never stuck. -/
lemma fits_turn (pem : String) (x : Scan) : (turn pem x).Fits pem x := by
  cases hb : (Text.utf8 pem)[x.position]? with
  | none =>
    have hturn : turn pem x = .finished := by simp only [turn, hb]
    have hnil : ahead pem x = [] := by
      rw [ahead, List.drop_eq_nil_of_le (List.getElem?_eq_none_iff.1 hb), List.map_nil]
    rw [hturn]
    exact token?_eq_none_iff.2 hnil
  | some b =>
    cases hdash : isDash (.ofUInt8 b) with
    | true =>
      rw [turn_of_dash hb hdash]
      split_ifs with hparts
      · exact (token?_ahead_of_dash hb hdash).trans (if_pos hparts)
      · exact ⟨_, _, takes_armor hb hdash hparts⟩
    | false =>
      rw [turn_of_not_dash hb hdash]
      exact ⟨_, _, takes_single hb hdash⟩

lemma exists_takes (h : turn pem x = .moved y) : ∃ t piece, Takes pem x y t piece := by
  have hfits := fits_turn pem x
  rwa [h] at hfits

lemma token?_of_refused {fault : PemFault} (h : turn pem x = .refused fault) :
    token? (ahead pem x) = some (.error fault) := by
  have hfits := fits_turn pem x
  rwa [h] at hfits

lemma turn_ne_stuck : turn pem x ≠ .stuck := by
  intro h
  have hfits := fits_turn pem x
  rwa [h] at hfits

lemma turn_eq_finished_iff : turn pem x = .finished ↔ (Text.utf8 pem).length ≤ x.position := by
  constructor
  · intro h
    have hfits := fits_turn pem x
    rw [h] at hfits
    exact List.drop_eq_nil_iff.1 (List.map_eq_nil_iff.1 (token?_eq_none_iff.1 hfits))
  · intro h
    simp only [turn, List.getElem?_eq_none_iff.2 h]

lemma Covers.ne_nil {t : Token} {piece : List UInt8} (h : Covers t piece) : piece ≠ [] := by
  cases h with
  | armor hopening => exact List.append_ne_nil_of_left_ne_nil hopening _
  | gap => exact List.cons_ne_nil _ _
  | body => exact List.cons_ne_nil _ _

lemma Takes.position_lt {t : Token} {piece : List UInt8} (h : Takes pem x y t piece) :
    x.position < y.position := by
  have hpos := List.length_pos_iff.2 h.covers.ne_nil
  have hposition := h.position
  omega

lemma Takes.position_le {t : Token} {piece : List UInt8} (h : Takes pem x y t piece) :
    y.position ≤ (Text.utf8 pem).length := by
  have hpos := List.length_pos_iff.2 h.covers.ne_nil
  have hlength := congrArg List.length h.drop
  have hposition := h.position
  rw [List.length_append, List.length_drop, List.length_drop] at hlength
  omega

/-! ### Accounts -/

/-- The bytes are split into runs, and the labels and the body are what the runs tell. -/
def AccountsFor (x : Scan) (bytes : List UInt8) : Prop :=
  ∃ ts pieces, List.Forall₂ Covers ts pieces ∧ pieces.flatten = bytes ∧
    x.labels = (Pem.labels ts).map String.ofList ∧ x.body = bodyChars ts

lemma accountsFor_start : start.AccountsFor [] := ⟨[], [], .nil, rfl, rfl, rfl⟩

/-- What is taken goes to the account. -/
lemma Takes.accountsFor {t : Token} {piece : List UInt8} (h : Takes pem x y t piece)
    (hx : x.AccountsFor ((Text.utf8 pem).take x.position)) :
    y.AccountsFor ((Text.utf8 pem).take y.position) := by
  obtain ⟨ts, pieces, hcovers, hflatten, hlabels, hbody⟩ := hx
  refine ⟨ts ++ [t], pieces ++ [piece], List.rel_append hcovers (.cons h.covers .nil), ?_, ?_, ?_⟩
  · rw [List.flatten_append, hflatten, List.flatten_singleton, h.position, List.take_add, h.drop,
      List.take_left]
  · rw [h.labels, hlabels, labels_append, List.map_append]
  · rw [h.body, hbody, bodyChars_append]

lemma AccountsFor.mem_body {bytes : List UInt8} (h : x.AccountsFor bytes) :
    ∀ c ∈ x.body, c ≠ '-' ∧ Text.isAsciiSpace c = false := by
  obtain ⟨ts, pieces, hcovers, -, -, hbody⟩ := h
  rw [hbody]
  clear hbody
  induction hcovers with
  | nil => simp [bodyChars]
  | cons hcover _ ih =>
    cases hcover with
    | armor => exact ih
    | gap => exact ih
    | body hdash hspace =>
      exact List.forall_mem_cons.2 ⟨⟨isDash_eq_false_iff.1 hdash, hspace⟩, ih⟩

/-! ### The whole scan -/

/-- The scan comes to `x` in the text. -/
def Reached (pem : String) : Scan → Prop :=
  Relation.ReflTransGen (fun x y => turn pem x = .moved y) start

lemma length_sub_lt_of_moved (h : turn pem x = .moved y) :
    (Text.utf8 pem).length - y.position < (Text.utf8 pem).length - x.position := by
  obtain ⟨t, piece, htakes⟩ := exists_takes h
  have hlt := htakes.position_lt
  have hle := htakes.position_le
  omega

/-- What the scan ends with from `x` on; nothing if it gets stuck. -/
def run (pem : String) (x : Scan) : Option (Except PemFault Scan) :=
  match h : turn pem x with
  | .finished => some (.ok x)
  | .refused fault => some (.error fault)
  | .stuck => none
  | .moved y =>
    have := length_sub_lt_of_moved h
    run pem y
termination_by (Text.utf8 pem).length - x.position

lemma run_of_finished (h : turn pem x = .finished) : run pem x = some (.ok x) := by
  rw [run]
  split <;> simp_all

lemma run_of_refused {fault : PemFault} (h : turn pem x = .refused fault) :
    run pem x = some (.error fault) := by
  rw [run]
  split <;> simp_all

lemma run_of_moved (h : turn pem x = .moved y) : run pem x = run pem y := by
  rw [run]
  split <;> simp_all

/-- Wherever the scan comes to, it has accounted for the bytes before. -/
lemma Reached.accountsFor (h : Reached pem x) : x.position ≤ (Text.utf8 pem).length ∧
    x.AccountsFor ((Text.utf8 pem).take x.position) := by
  induction h with
  | refl => exact ⟨Nat.zero_le _, accountsFor_start⟩
  | tail _ hmove ih =>
    obtain ⟨t, piece, htakes⟩ := exists_takes hmove
    exact ⟨htakes.position_le, htakes.accountsFor ih.2⟩

/-- A scan that succeeds has come to the end of the bytes. -/
lemma reached_of_run (hx : Reached pem x) (h : run pem x = some (.ok y)) :
    Reached pem y ∧ turn pem y = .finished := by
  induction x using run.induct pem with
  | case1 x hturn =>
    rw [run_of_finished hturn] at h
    cases h
    exact ⟨hx, hturn⟩
  | case2 x fault hturn =>
    rw [run_of_refused hturn] at h
    cases h
  | case3 x hturn => exact absurd hturn turn_ne_stuck
  | case4 x z hturn hlt ih =>
    rw [run_of_moved hturn] at h
    exact ih (hx.tail hturn) h

/-- The scan finds what the runs of the bytes ahead tell. -/
lemma run_eq (hx : x.position ≤ (Text.utf8 pem).length) :
    run pem x = some ((told id (tokens (ahead pem x))).map fun (labels, body) =>
      ⟨(Text.utf8 pem).length, x.labels ++ labels.map String.ofList, x.body ++ body⟩) := by
  induction x using run.induct pem with
  | case1 x hturn =>
    have hend := Nat.le_antisymm hx (turn_eq_finished_iff.1 hturn)
    have hnil : ahead pem x = [] := by
      rw [ahead, List.drop_eq_nil_of_le hend.ge]
      rfl
    rw [run_of_finished hturn, hnil, tokens_nil, ← hend]
    simp [told, Except.map, Pem.labels, bodyChars]
  | case2 x fault hturn =>
    rw [run_of_refused hturn, tokens_of_token?_error (token?_of_refused hturn)]
    rfl
  | case3 x hturn => exact absurd hturn turn_ne_stuck
  | case4 x y hturn hlt ih =>
    obtain ⟨t, piece, htakes⟩ := exists_takes hturn
    rw [run_of_moved hturn, ih htakes.position_le, tokens_of_token? htakes.token, htakes.labels,
      htakes.body]
    cases tokens (ahead pem y) with
    | error fault => rfl
    | ok ts =>
      have hlabels : Pem.labels (t :: ts) = Pem.labels [t] ++ Pem.labels ts := labels_append [t] ts
      have hbody : bodyChars (t :: ts) = bodyChars [t] ++ bodyChars ts := bodyChars_append [t] ts
      simp [told, Except.map, hlabels, hbody]

/-- **The scan of a text comes to what its runs tell**, with the body byte by byte. -/
lemma run_start (pem : String) : run pem start = some ((tokens pem.toList).map fun ts =>
    ⟨(Text.utf8 pem).length, (Pem.labels ts).map String.ofList,
      Text.byteChars (bodyChars ts)⟩) := by
  have hahead : ahead pem start = Text.byteChars pem.toList := rfl
  rw [run_eq (Nat.zero_le _), hahead, told_byteChars]
  cases tokens pem.toList <;> rfl

lemma wrongLabel?_eq_none_iff_forall {kind : KeyKind} {ts : List Token} :
    wrongLabel? kind ts = none ↔
      ∀ label ∈ (Pem.labels ts).map String.ofList, labelName label = kind.label := by
  rw [wrongLabel?, List.find?_eq_none]
  simp only [bne_iff_ne, not_not]

/-- What a document is read as is decided by what the scan finds. -/
lemma decode_eq_ok_iff_run {kind : KeyKind} {bytes : List UInt8} : decode kind pem = .ok bytes ↔
    ∃ x, run pem start = some (.ok x) ∧ (∀ label ∈ x.labels, labelName label = kind.label) ∧
      x.body ≠ [] ∧ Base64.decode x.body = some bytes := by
  rw [decode_eq_ok_iff_tokens, run_start]
  constructor
  · rintro ⟨ts, hts, hlabels, hbody, hbytes⟩
    rw [hts]
    exact ⟨_, rfl, wrongLabel?_eq_none_iff_forall.1 hlabels, mt Text.byteChars_eq_nil_iff.1 hbody,
      decode_byteChars.2 hbytes⟩
  · rintro ⟨x, hx, hlabels, hbody, hbytes⟩
    obtain ⟨ts, hts, rfl⟩ := Except.map_eq_ok_iff.1 (Option.some.inj hx)
    exact ⟨ts, hts, wrongLabel?_eq_none_iff_forall.2 hlabels, mt Text.byteChars_eq_nil_iff.2 hbody,
      decode_byteChars.1 hbytes⟩

/-- What holds wherever the scan comes to: it ends at the end of the bytes and nowhere before, it
moves on to a later position of the text, and a label that it cuts out is a part of the text. -/
structure Safe (pem : String) (x : Scan) : Prop where
  position_le : x.position ≤ (Text.utf8 pem).length
  finishes : turn pem x = .finished ↔ x.position = (Text.utf8 pem).length
  advances {y : Scan} (h : turn pem x = .moved y) :
    x.position < y.position ∧ y.position ≤ (Text.utf8 pem).length
  not_stuck : turn pem x ≠ .stuck
  inBounds {b : UInt8} (hb : (Text.utf8 pem)[x.position]? = some b)
    (hdash : isDash (.ofUInt8 b) = true) : (x.ends pem).InBounds pem

lemma Reached.safe (h : Reached pem x) : Safe pem x where
  position_le := h.accountsFor.1
  finishes := turn_eq_finished_iff.trans h.accountsFor.1.ge_iff_eq
  advances hmove := by
    obtain ⟨t, piece, htakes⟩ := exists_takes hmove
    exact ⟨htakes.position_lt, htakes.position_le⟩
  not_stuck := turn_ne_stuck
  inBounds := inBounds_ends

/-- **The scan is safe and loses nothing.** Wherever it comes to in a text, it ends or goes on to a
later position, cuts labels out at the boundaries of characters, and has accounted for each byte
before: as part of an armor run, as white space, or as a character of the body. So when it succeeds
all bytes are accounted for, and the body is free of dashes and white space. It finds what the runs
of the text tell, and this is what a document is read from. -/
theorem safe_and_lossless (pem : String) :
    (∀ x, Reached pem x → Safe pem x ∧ x.AccountsFor ((Text.utf8 pem).take x.position)) ∧
      (∀ x, run pem start = some (.ok x) → Reached pem x ∧ x.AccountsFor (Text.utf8 pem) ∧
        ∀ c ∈ x.body, c ≠ '-' ∧ Text.isAsciiSpace c = false) ∧
      (run pem start = some ((tokens pem.toList).map fun ts =>
        ⟨(Text.utf8 pem).length, (Pem.labels ts).map String.ofList,
          Text.byteChars (bodyChars ts)⟩)) ∧
      ∀ kind bytes, decode kind pem = .ok bytes ↔ ∃ x, run pem start = some (.ok x) ∧
        (∀ label ∈ x.labels, labelName label = kind.label) ∧ x.body ≠ [] ∧
        Base64.decode x.body = some bytes := by
  refine ⟨fun x hx => ⟨hx.safe, hx.accountsFor.2⟩, fun x hrun => ?_, run_start pem,
    fun kind bytes => decode_eq_ok_iff_run⟩
  obtain ⟨hx, hfinished⟩ := reached_of_run .refl hrun
  have haccount := hx.accountsFor.2
  rw [hx.safe.finishes.1 hfinished, List.take_length] at haccount
  exact ⟨hx, haccount, haccount.mem_body⟩

/-- Letters of two bytes on both sides of armor. -/
def sample : String := "é--A -é \n"

def sampleEnd : Scan := ⟨11, ["A"], ['Ã', '©', 'Ã', '©']⟩

theorem safe_and_lossless_sample : run sample start = some (.ok sampleEnd) ∧
    Reached sample sampleEnd ∧ Safe sample sampleEnd ∧
      sampleEnd.AccountsFor (Text.utf8 sample) := by
  have hrun : run sample start = some (.ok sampleEnd) := by decide +kernel
  obtain ⟨hreached, hfinds, -, -⟩ := safe_and_lossless sample
  obtain ⟨hend, haccount, -⟩ := hfinds _ hrun
  exact ⟨hrun, hend, (hreached _ hend).1, haccount⟩

end Scan

end Attestation.Pem
