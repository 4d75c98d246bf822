import Attestation.Error
import Attestation.Text.Blank

/-!
The operators of constraints and the spellings they are read from.

Only the last piece of a spelling counts, in any case and with or without underscores, so a
full name such as `odrl:gteq` and a bare one are read alike.
-/

namespace Attestation

inductive Operator where
  | eq
  | neq
  | gt
  | geq
  | lt
  | leq
  | isIn
  | hasPart
  | isA
  | isAllOf
  | isAnyOf
  | isNoneOf
  deriving DecidableEq, Repr

namespace Operator

def name : Operator → String
  | .eq => "EQ"
  | .neq => "NEQ"
  | .gt => "GT"
  | .geq => "GEQ"
  | .lt => "LT"
  | .leq => "LEQ"
  | .isIn => "IN"
  | .hasPart => "HAS_PART"
  | .isA => "IS_A"
  | .isAllOf => "IS_ALL_OF"
  | .isAnyOf => "IS_ANY_OF"
  | .isNoneOf => "IS_NONE_OF"

/-- Compares sizes. -/
def isNumeric : Operator → Bool
  | .gt | .geq | .lt | .leq => true
  | _ => false

/-- What the operator makes of an order, if it is one of the six comparisons. -/
def test : Operator → Ordering → Option Bool
  | .eq, o => some (o == .eq)
  | .neq, o => some (o != .eq)
  | .gt, o => some (o == .gt)
  | .geq, o => some (o != .lt)
  | .lt, o => some (o == .lt)
  | .leq, o => some (o != .gt)
  | _, _ => none

def isSeparator (c : Char) : Bool := c == '/' || c == '#' || c == ':'

/-- What follows the last separator. -/
def lastPiece (s : List Char) : List Char := (s.reverse.takeWhile (!isSeparator ·)).reverse

/-- The letters that tell the operators apart. -/
def normalize (s : List Char) : List Char :=
  ((lastPiece (Text.trimChars s)).filter (· != '_')).map Char.toUpper

def ofNormal? (s : String) : Option Operator :=
  match s with
  | "EQ" => some .eq
  | "NEQ" => some .neq
  | "GT" => some .gt
  | "GEQ" | "GTEQ" => some .geq
  | "LT" => some .lt
  | "LEQ" | "LTEQ" => some .leq
  | "IN" => some .isIn
  | "HASPART" => some .hasPart
  | "ISA" => some .isA
  | "ISALLOF" => some .isAllOf
  | "ISANYOF" => some .isAnyOf
  | "ISNONEOF" => some .isNoneOf
  | _ => none

def parse (s : String) : Except Error Operator :=
  match ofNormal? (String.ofList (normalize s.toList)) with
  | some op => .ok op
  | none => .error (.unknownOperator s)

end Operator

end Attestation
