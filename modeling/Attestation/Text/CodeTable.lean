import Attestation.Text.Blank
import Attestation.Text.Bytes

/-!
Tables of code points, written as lines of words.

A word is a code point in hexadecimal, or the first and the last of several with a hyphen
between them; a slash and a step leave out some of them. What a table maps code points to
follows after a colon, as code points with dots between them.
-/

namespace Attestation.Text

/-- Every `step`-th code point from `first` to `last`. -/
structure Span where
  first : Nat
  last : Nat
  step : Nat
  deriving DecidableEq, Repr

namespace Span

def covers (s : Span) (n : Nat) : Bool :=
  s.first ≤ n && n ≤ s.last && (n - s.first) % s.step == 0

/-- The number that hexadecimal digits write. -/
def number? (s : List Char) : Option Nat :=
  (s.mapM hexValue?).map fun ds => ds.foldl (fun n d => 16 * n + d) 0

def ofEnds? (step : Nat) (s : List Char) : Option Span :=
  match splitChars (· == '-') s with
  | [a] => (number? a).map fun n => ⟨n, n, step⟩
  | [a, b] => do return ⟨← number? a, ← number? b, step⟩
  | _ => none

def ofWord? (s : List Char) : Option Span :=
  match splitChars (· == '/') s with
  | [ends] => ofEnds? 1 ends
  | [ends, step] => do ofEnds? (← number? step) ends
  | _ => none

end Span

/-- Code points with what they are mapped to. The target of the first is written out; if it is
a single code point, those after the first are mapped to the ones as far after it. -/
structure Mapping where
  span : Span
  target : List Nat
  deriving DecidableEq, Repr

namespace Mapping

def image (m : Mapping) (n : Nat) : List Nat :=
  match m.target with
  | [t] => [t + (n - m.span.first)]
  | ts => ts

def ofWord? (s : List Char) : Option Mapping :=
  match splitChars (· == ':') s with
  | [span, target] => do
    return ⟨← Span.ofWord? span, ← (splitChars (· == '.') target).mapM Span.number?⟩
  | _ => none

end Mapping

def words (lines : List String) : List (List Char) :=
  lines.flatMap fun line => splitChars (· == ' ') line.toList

/-- The set of code points that lines of words describe. -/
def spans (lines : List String) : List Span := (words lines).filterMap Span.ofWord?

/-- The map of code points that lines of words describe. -/
def mappings (lines : List String) : List Mapping := (words lines).filterMap Mapping.ofWord?

def isAmong (table : List Span) (c : Char) : Bool := table.any (·.covers c.toNat)

/-- What a table maps a character to, if it is in the table. -/
def image? (table : List Mapping) (c : Char) : Option (List Char) :=
  (table.find? (·.span.covers c.toNat)).map fun m => (m.image c.toNat).map Char.ofNat

end Attestation.Text
