import Attestation.Error
import Attestation.Json.Printer
import Attestation.Numeral.Reading
import Attestation.Text.Blank

/-!
Right operands as text, as lists and as numbers.
-/

namespace Attestation.Operand

open Numeral

/-- The text of a scalar: a string as it is, a number or a flag by its JSON text. -/
def scalar? : Json → Option String
  | .string s => some s
  | .number n => some n.text
  | .bool b => some (String.ofList (Json.boolChars b))
  | _ => none

def scalars (rule : String) : List Json → Except Error (List String)
  | [] => .ok []
  | v :: rest =>
    match scalar? v with
    | none => .error (.invalidRightOperand rule (.notAScalar v.text))
    | some s => (scalars rule rest).map (s :: ·)

/-- The entries as written: the items of an array, the pieces of a string between commas, or a
scalar by itself. -/
def rawEntries (rule : String) : Json → Except Error (List String)
  | .array items => scalars rule items
  | .string s => .ok (Text.split (· == ',') s)
  | .number n => .ok [n.text]
  | .bool b => .ok [String.ofList (Json.boolChars b)]
  | _ => .error (.invalidRightOperand rule .expectedList)

/-- The entries, trimmed, without the blank ones. -/
def entries (rule : String) (right : Json) : Except Error (List String) :=
  (rawEntries rule right).map fun es => (es.map Text.trim).filter (!·.isEmpty)

/-- The number that a text holds, with white space around it allowed. -/
def number (s : String) : Except Error Double :=
  match readDouble (Text.trimChars s.toList) with
  | some x => .ok x
  | none => .error (.notNumeric s)

/-- The scalar text of an operand that may only be a scalar. -/
def needScalar (rule : String) (right : Json) : Except Error String :=
  match scalar? right with
  | some s => .ok s
  | none => .error (.invalidRightOperand rule (.expectedScalar right.text))

end Attestation.Operand
