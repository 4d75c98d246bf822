import Attestation.Url.DomainTable
import Attestation.Url.Label
import Attestation.Url.Punycode

/-!
Domain names, written in ASCII.

The characters of a name are folded to those that they stand for, and the name is brought into
normal form. A label that is written in Punycode has to be the form of a label that has nothing
to fold; one with characters beyond ASCII is written in Punycode.
-/

namespace Attestation.Url.Domain

open Text

/-- The ASCII characters that no domain holds. -/
def isForbidden (c : Char) : Bool :=
  c.toNat ≤ 0x20 || c == '\x7f' ||
    ['%', '#', '/', ':', '<', '>', '?', '@', '[', '\\', ']', '^', '|'].contains c

/-- What a character stands for, if a domain may hold it. -/
def fold? (c : Char) : Option (List Char) :=
  if isAscii c then some [c.toLower]
  else if isAmong DomainTable.disallowed c then none
  else if isAmong DomainTable.ignored c then some []
  else some ((image? DomainTable.mapped c).getD [c])

/-- The name that a text stands for. -/
def folded? (s : List Char) : Option (List Char) := (s.mapM fold?).map fun t => normal t.flatten

def dropMark : List Char → Option (List Char)
  | 'x' :: 'n' :: '-' :: '-' :: rest => some rest
  | _ => none

/-- The text of a label that is written as `code` in Punycode. -/
def decode? (code : List Char) : Option (List Char) := do
  if code.getLast? = some '-' || 2000 < code.length then none
  else
    let text ← Punycode.decode code
    if text.all isAscii || folded? text != some text then none else some text

/-- The text of a label. -/
def text? (s : List Char) : Option (List Char) := do
  let text ← match dropMark s with
    | none => some s
    | some code => decode? code
  if Label.isSound text then some text else none

/-- The ASCII form of the text of a label. -/
def form (text : List Char) : List Char :=
  if text.all isAscii then text else 'x' :: 'n' :: '-' :: '-' :: Punycode.encode text

def joinDots : List (List Char) → List Char
  | [] => []
  | [s] => s
  | s :: rest => s ++ '.' :: joinDots rest

/-- The ASCII form of a domain. -/
def ascii? (s : List Char) : Option (List Char) := do
  let texts ← (splitChars (· == '.') (← folded? s)).mapM text?
  let name := joinDots (texts.map form)
  if name.any isForbidden || (texts.any (·.any Label.turns) && !texts.all Label.keepsDirection)
  then none else some name

end Attestation.Url.Domain
