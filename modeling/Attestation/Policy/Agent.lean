import Attestation.Claims.Basic
import Attestation.Error

/-!
The participant whose request is judged, as the attributes it arrives with.

It names itself, asserts claims, either as JSON or as text that holds JSON, and may add a
signature of them. None of it is trusted; attributes that are blank count as missing.
-/

namespace Attestation

structure Agent where
  attributes : List (String × Json)

namespace Agent

def empty : Agent := ⟨[]⟩

def attribute? (a : Agent) (name : String) : Option Json := Keyed.find? name a.attributes

def withAttribute (a : Agent) (name : String) (v : Json) : Agent :=
  ⟨Keyed.insert name v a.attributes⟩

/-- The attribute if it is a string that is not blank. -/
def text? (a : Agent) (name : String) : Option String :=
  match a.attribute? name with
  | some (.string s) => if Text.isBlank s then none else some s
  | _ => none

def clientId (a : Agent) : Except Error String :=
  match a.text? "client_id" with
  | some s => .ok s
  | none => .error (.missingAttribute "client_id")

/-- The claims in a value of JSON. -/
def claimsOfJson (v : Json) : Except Error ClaimSet :=
  match ClaimSet.ofJson? v with
  | some c => .ok c
  | none => .error (.invalidClaims "<inline>")

def claims (a : Agent) : Except Error ClaimSet :=
  match a.attribute? "claims" with
  | some (.object members) => claimsOfJson (.object members)
  | some (.string s) =>
    match Json.parse s with
    | some v => claimsOfJson v
    | none => .error (.missingAttribute "claims")
  | _ => .error (.missingAttribute "claims")

def signedClaims? (a : Agent) : Option String := a.text? "signedClaims"

/-- The agent that a participant with an identity sends out. -/
def ofIdentity (id : String) (claims : ClaimSet) (signature : String) : Agent :=
  ((empty.withAttribute "client_id" (.string id)).withAttribute "claims"
    claims.json).withAttribute "signedClaims" (.string signature)

def json (a : Agent) : Json := .object a.attributes

def ofJson? : Json → Option Agent
  | .object attributes => some ⟨attributes⟩
  | _ => none

/-- The agent in a JSON text. -/
def parse? (s : String) : Option Agent := (Json.parse s).bind ofJson?

end Agent

end Attestation
