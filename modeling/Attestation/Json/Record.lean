import Attestation.Json.Parser

/-!
Records in JSON.

A record is written as an object that names its fields or as an array that lists them in
order. An object may hold further members, which are not looked at, but names no field twice;
an array holds nothing beyond the fields, and may stop early.
-/

namespace Attestation.Json

/-- What a record gives for a field: nothing in an object, nothing at the end of an array, or
a draft. -/
inductive Field where
  | absent
  | cutOff
  | given (d : Draft)

/-- The members under `name`, in order. -/
def Draft.membersAt (name : String) (members : List (Option String × Draft)) : List Draft :=
  members.filterMap fun m => if m.1 = some name then some m.2 else none

/-- The field called `name` of an object, which may not give it twice. -/
def Draft.memberField? (members : List (Option String × Draft)) (name : String) :
    Option Field :=
  match Draft.membersAt name members with
  | [] => some .absent
  | [d] => some (.given d)
  | _ => none

/-- The items of an array as the fields of a record with `n` of them. -/
def Draft.itemFields? : Nat → List Draft → Option (List Field)
  | 0, [] => some []
  | 0, _ :: _ => none
  | n + 1, [] => (Draft.itemFields? n []).map (.cutOff :: ·)
  | n + 1, d :: rest => (Draft.itemFields? n rest).map (.given d :: ·)

/-- The fields of a record, in the order of `names`. -/
def Draft.fields? (names : List String) : Draft → Option (List Field)
  | .object members =>
    if members.all fun m => m.1.isSome then names.mapM (Draft.memberField? members) else none
  | .array items => Draft.itemFields? names.length items
  | _ => none

/-- A field that has to be given. -/
def Field.required {α : Type} (read : Draft → Option α) : Field → Option α
  | .given d => read d
  | _ => none

/-- A field with a value to fall back on. -/
def Field.withDefault {α : Type} (default : α) (read : Draft → Option α) : Field → Option α
  | .given d => read d
  | _ => some default

def Draft.string? : Draft → Option String
  | .string s => s
  | _ => none

def Draft.bool? : Draft → Option Bool
  | .bool b => some b
  | _ => none

/-- A whole number that is not negative. -/
def Draft.natural? : Draft → Option UInt64
  | .number (some (.natural n)) => some n
  | _ => none

end Attestation.Json
