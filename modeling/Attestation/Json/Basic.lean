import Attestation.Keyed
import Attestation.Numeral.Shortest

/-!
JSON values.

A number is a whole number of 64 bits or a finite binary64 number, and the two never mix: `1`
and `1.0` are different values. The members of an object are kept in increasing order of their
keys. Equality of values is structural, but compares binary64 numbers as numbers.
-/

namespace Attestation

inductive Json.Number where
  | natural (n : UInt64)
  /-- The negative number `-(n + 1)`. -/
  | negSucc (n : Fin 0x8000000000000000)
  | real (x : Numeral.Double) (finite : x.isFinite = true)
  deriving DecidableEq

inductive Json where
  | null
  | bool (b : Bool)
  | number (n : Json.Number)
  | string (s : String)
  | array (items : List Json)
  | object (members : List (String × Json))
  deriving Inhabited

namespace Json

def Number.ofNat (n : Nat) : Number := .natural (UInt64.ofNat n)

def nat (n : Nat) : Json := .number (.ofNat n)

/-- Equality of numbers: the two zeros of binary64 are equal. -/
def Number.same : Number → Number → Bool
  | .natural a, .natural b => a == b
  | .negSucc a, .negSucc b => a == b
  | .real x _, .real y _ => x.numEq y
  | _, _ => false

mutual

/-- Equality of values. -/
def same : Json → Json → Bool
  | .null, .null => true
  | .bool a, .bool b => a == b
  | .number a, .number b => a.same b
  | .string a, .string b => a == b
  | .array a, .array b => sameItems a b
  | .object a, .object b => sameMembers a b
  | _, _ => false

def sameItems : List Json → List Json → Bool
  | [], [] => true
  | a :: as, b :: bs => same a b && sameItems as bs
  | _, _ => false

def sameMembers : List (String × Json) → List (String × Json) → Bool
  | [], [] => true
  | (j, a) :: as, (k, b) :: bs => j == k && same a b && sameMembers as bs
  | _, _ => false

end

def string? : Json → Option String
  | .string s => some s
  | _ => none

/-- The member of an object under a key. -/
def get? (key : String) : Json → Option Json
  | .object members => Keyed.find? key members
  | _ => none

mutual

/-- The keys of every object increase, at every depth. -/
def Ordered : Json → Prop
  | .array items => OrderedItems items
  | .object members => OrderedMembers members
  | _ => True

def OrderedItems : List Json → Prop
  | [] => True
  | v :: rest => v.Ordered ∧ OrderedItems rest

def OrderedMembers : List (String × Json) → Prop
  | [] => True
  | (k, v) :: rest => (∀ k' ∈ Keyed.keys rest, k < k') ∧ v.Ordered ∧ OrderedMembers rest

end

end Json

end Attestation
