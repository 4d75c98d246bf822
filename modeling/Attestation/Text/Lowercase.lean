import Attestation.Text.CaseTable

/-!
Full lower-casing.

A character is lowered by itself, with two exceptions: the dotted capital I becomes two
characters, and a capital sigma becomes a final sigma when the nearest character before it
that is not case-ignorable is cased and the nearest such character after it is not.
-/

namespace Attestation.Text

open CaseTable

def isCaseIgnorable (c : Char) : Bool := covers ignorable c.toNat

def isCased (c : Char) : Bool := covers cased c.toNat

/-- The lower case of a character that lowers to one character. -/
def lowerChar (c : Char) : Char :=
  if c.isUpper then Char.ofNat (c.toNat + 32)
  else if c.toNat < 0x80 then c
  else match lowerRuns.find? (·.covers c.toNat) with
    | some r => Char.ofNat (c.toNat + r.shift).toNat
    | none => c

/-- The first character that is not case-ignorable is cased. -/
def startsCased (s : List Char) : Bool :=
  match s.dropWhile isCaseIgnorable with
  | [] => false
  | c :: _ => isCased c

/-- The lower case of `c` between `before`, which is read backwards, and `after`. -/
def lowerAt (before : List Char) (c : Char) (after : List Char) : List Char :=
  if c = 'Σ' then
    if startsCased before && !startsCased after then ['ς'] else ['σ']
  else if c = 'İ' then ['i', '\u0307']
  else [lowerChar c]

/-- Lowers `s`, which stands after `before` read backwards. -/
def lowerAfter (before : List Char) : List Char → List Char
  | [] => []
  | c :: rest => lowerAt before c rest ++ lowerAfter (c :: before) rest

def lowerChars (s : List Char) : List Char := lowerAfter [] s

def lower (s : String) : String := String.ofList (lowerChars s.toList)

end Attestation.Text
