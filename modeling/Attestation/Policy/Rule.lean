import Attestation.Network.Address
import Attestation.Policy.Operand
import Attestation.Policy.Operator
import Attestation.Text.Lowercase

/-!
The rules for claims with a meaning of their own, and the comparison for all others.

A rule says which operators a claim may be compared with and how. Everything else is compared
as it comes: sizes as numbers, and the rest as text.
-/

namespace Attestation

inductive Comparison where
  | exact
  | caseInsensitive
  /-- Exact, but an entry of a list may also be a network that holds the address. -/
  | network
  deriving DecidableEq, Repr

/-- Where a rule takes the value that it compares. -/
inductive ValueSource where
  | claim
  | clientId
  deriving DecidableEq, Repr

structure Rule where
  claimKey : String
  operators : List Operator
  comparison : Comparison
  source : ValueSource
  /-- The right operand of an equality has to be a string. -/
  stringOperand : Bool
  deriving Repr

namespace Rule

def location : Rule := ⟨"location", [.eq], .exact, .claim, false⟩

def country : Rule := ⟨"country", [.eq], .caseInsensitive, .claim, false⟩

def entityType : Rule := ⟨"entity_type", [.eq], .caseInsensitive, .claim, true⟩

def legalName : Rule := ⟨"legal_name", [.eq, .isIn], .exact, .claim, false⟩

def participantId : Rule := ⟨"participant_id", [.eq, .isIn], .exact, .clientId, false⟩

def ipConnector : Rule := ⟨"ip_connector", [.eq, .isIn], .network, .claim, false⟩

def builtin : List Rule :=
  [location, country, entityType, legalName, participantId, ipConnector]

def builtin? (key : String) : Option Rule := builtin.find? fun r => r.claimKey == key

def allows (r : Rule) (op : Operator) : Bool := r.operators.contains op

def unsupported (r : Rule) (op : Operator) : Error := .unsupportedOperator r.claimKey op.name

/-- The scalar on the right of an equality. -/
def scalarOperand (r : Rule) (right : Json) : Except Error String :=
  match if r.stringOperand then right.string? else Operand.scalar? right with
  | some s => .ok s
  | none => .error (.invalidRightOperand r.claimKey (.expectedString right.text))

def equals (r : Rule) (value expected : String) : Bool :=
  match r.comparison with
  | .exact | .network => value == expected
  | .caseInsensitive =>
    Text.lowerChars value.toList == Text.lowerChars expected.toList

/-- The entry is a network and the value is one of its addresses. -/
def networkHolds (value entry : String) : Bool :=
  match Network.Block.parse (Text.trimChars entry.toList),
    Network.Address.parse (Text.trimChars value.toList) with
  | some block, some address => block.contains address
  | _, _ => false

def entryMatches (r : Rule) (value entry : String) : Bool :=
  r.equals value entry ||
    (r.comparison == .network && entry.toList.contains '/' && networkHolds value entry)

def compare (r : Rule) (op : Operator) (value : String) (right : Json) : Except Error Bool :=
  if !r.allows op then .error (r.unsupported op)
  else match op with
    | .eq => (r.scalarOperand right).map (r.equals value)
    | .isIn => (Operand.entries r.claimKey right).map fun es => es.any (r.entryMatches value)
    | _ => .error (r.unsupported op)

end Rule

/-- The operators that claims without a rule may be compared with. -/
def dynamicOperators : List Operator := [.eq, .neq, .gt, .geq, .lt, .leq, .isIn]

/-- What the operator makes of two numbers; with NaN on a side nothing holds. -/
def compareNumbers (op : Operator) (x y : Numeral.Double) : Bool :=
  ((x.compare y).bind op.test).getD false

/-- Compares a claim without a rule. -/
def compareDynamic (key : String) (op : Operator) (value : String) (right : Json) :
    Except Error Bool :=
  if op.isNumeric then do
    let x ← Operand.number value
    let y ← Operand.number (← Operand.needScalar key right)
    return compareNumbers op x y
  else match op with
    | .eq => (Operand.needScalar key right).map (value == ·)
    | .neq => (Operand.needScalar key right).map (value != ·)
    | .isIn => (Operand.entries key right).map fun es => es.contains value
    | _ => .error (.unsupportedOperator key op.name)

end Attestation
