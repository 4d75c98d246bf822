import Attestation.Text.Normal
import Attestation.Url.LabelTable

/-!
The rules for the characters of a label.

A label does not start with a mark. A joiner stands after a virama, and one that keeps letters
apart also stands where the letters around it would join. Once a domain has a character that is
read from right to left, each of its labels is read in one direction only.
-/

namespace Attestation.Url.Label

open Text LabelTable

def isMark (c : Char) : Bool := isAmong marks c

/-! ### Joiners -/

/-- The combining class of the signs that mute the vowel of a letter. -/
def isVirama (c : Char) : Bool := Normal.classOf c == 9

/-- The next letter, past the marks that letters join across, is in one of the tables. -/
def joins (tables : List (List Span)) (s : List Char) : Bool :=
  (s.dropWhile (isAmong transparent)).head?.any fun c => tables.any (isAmong · c)

/-- The joiners of a text that stands after `before`, read backwards, are where they may be. -/
def joinersAfter (before : List Char) : List Char → Bool
  | [] => true
  | c :: rest =>
    (if before.head?.any isVirama then true
      else if c = '\u200c' then
        joins [joiningLeft, joiningBoth] before && joins [joiningRight, joiningBoth] rest
      else c != '\u200d') &&
    joinersAfter (c :: before) rest

/-- The rules for a label by itself. -/
def isSound (s : List Char) : Bool :=
  !s.head?.any isMark && joinersAfter [] s && (s.all isAscii || s.length ≤ 1000)

/-! ### Directions -/

/-- What the direction of a text depends on. -/
inductive Direction where
  | left
  | right
  | european
  | arabic
  | neutral
  | nonspacing
  deriving DecidableEq, Repr

def direction (c : Char) : Direction :=
  if isAmong rightToLeft c then .right
  else if isAmong europeanDigits c then .european
  else if isAmong arabicDigits c then .arabic
  else if isAmong nonspacing c then .nonspacing
  else if isAmong LabelTable.neutral c then .neutral
  else .left

/-- A domain with such a character is read in two directions. -/
def turns (c : Char) : Bool := direction c == .right || direction c == .arabic

/-- A label that starts with a letter holds no letter of the other direction and ends with a
letter or digit, marks aside; one from right to left does not mix the two kinds of digits, and
one from left to right has no Arabic ones. -/
def keepsDirection (s : List Char) : Bool :=
  let ds := s.map direction
  let last := (ds.reverse.dropWhile (· == .nonspacing)).head?
  match ds with
  | [] => true
  | .left :: _ => !ds.contains .right && !ds.contains .arabic && last != some .neutral
  | .right :: _ =>
    !ds.contains .left && !(ds.contains .european && ds.contains .arabic) &&
      last != some .neutral
  | _ => false

end Attestation.Url.Label
