import Attestation.Json.Record
import Attestation.Policy.Operator

/-!
Constraints: a left operand that names a claim, an operator, and any JSON value on the right.
-/

namespace Attestation

/-- What follows the last slash of a left operand, or all of it when nothing does. -/
def claimKeyChars (s : List Char) : List Char :=
  let last := (s.reverse.takeWhile (· != '/')).reverse
  if last.isEmpty then s else last

def claimKey (left : String) : String := String.ofList (claimKeyChars left.toList)

structure Constraint where
  left : String
  operator : Operator
  right : Json

namespace Constraint

/-- The key of the claim that is constrained. -/
def key (c : Constraint) : String := claimKey c.left

def json (c : Constraint) : Json :=
  .object
    [("leftOperand", .string c.left), ("operator", .string c.operator.name),
      ("rightOperand", c.right)]

/-- Why a value is no constraint: its shape, or its operator. -/
inductive Refusal where
  | malformed
  | operator (e : Error)

/-- Reads the operator of a constraint. -/
def operatorOfDraft (d : Json.Draft) : Except Refusal Operator :=
  match d.string? with
  | none => .error .malformed
  | some s => (Operator.parse s).mapError .operator

/-- Reads a field, if it is given. -/
def given {α : Type} (read : Json.Draft → Except Refusal α) :
    Option Json.Draft → Except Refusal (Option α)
  | none => .ok none
  | some d => (read d).map some

def orMalformed {α : Type} : Option α → Except Refusal α
  | some a => .ok a
  | none => .error .malformed

/-- Reads the fields in order before asking whether any is missing. -/
def ofFields (left operator right : Option Json.Draft) : Except Refusal Constraint := do
  let left ← given (fun d => orMalformed d.string?) left
  let operator ← given operatorOfDraft operator
  let right ← given (fun d => orMalformed d.value?) right
  return ⟨← orMalformed left, ← orMalformed operator, ← orMalformed right⟩

def ofDraft : Json.Draft → Except Refusal Constraint
  | .object members => do
    let field (name : String) : Except Refusal (Option Json.Draft) :=
      match Json.Draft.membersAt name members with
      | [] => .ok none
      | [d] => .ok (some d)
      | _ => .error .malformed
    ofFields (← field "leftOperand") (← field "operator") (← field "rightOperand")
  | .array items => do
    let c ← ofFields items[0]? items[1]? items[2]?
    if items.length ≤ 3 then return c else throw .malformed
  | _ => .error .malformed

def ofJson (v : Json) : Except Refusal Constraint := ofDraft v.draft

end Constraint

end Attestation
