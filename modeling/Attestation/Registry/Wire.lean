import Attestation.Registry.Query

/-!
The bodies that a registry takes and gives.

A flag travels as a string, which is true or false in any case with white space around it
allowed. Any other flag makes the whole response malformed.
-/

namespace Attestation

/-- Reads the name of a protocol, which may also stand as the only key of an object, with
nothing under it. -/
def Protocol.ofDraft? : Json.Draft → Option Protocol
  | .string s => s.bind Protocol.ofName?
  | .object [(k, .null)] => k.bind Protocol.ofName?
  | _ => none

namespace Registry

/-- The body of a request to verify a signed claim set. -/
structure BundleRequest where
  participant : String
  signature : String
  claims : ClaimSet

namespace BundleRequest

/-- The members in the order in which they are sent. -/
def json (r : BundleRequest) : Json :=
  .object
    [("participantId", .string r.participant), ("signedClaims", .string r.signature),
      ("claims", r.claims.json)]

def ofDraft? (d : Json.Draft) : Option BundleRequest := do
  match ← d.fields? ["participantId", "signedClaims", "claims"] with
  | [participant, signature, claims] =>
    return ⟨← participant.required Json.Draft.string?,
      ← signature.required Json.Draft.string?, ← claims.required ClaimSet.ofDraft?⟩
  | _ => none

end BundleRequest

/-- A flag as it travels. -/
structure TypedFlag where
  valueType : String
  deriving DecidableEq, Repr

namespace TypedFlag

def ofBool (b : Bool) : TypedFlag := ⟨String.ofList (Json.boolChars b)⟩

def value (f : TypedFlag) : Except Error Bool :=
  let s := (Text.trimChars f.valueType.toList).map Char.toLower
  if s = ['t', 'r', 'u', 'e'] then .ok true
  else if s = ['f', 'a', 'l', 's', 'e'] then .ok false
  else .error (.malformedResponse (.notABoolean f.valueType))

def json (f : TypedFlag) : Json := .object [("valueType", .string f.valueType)]

def ofDraft? (d : Json.Draft) : Option TypedFlag := do
  match ← d.fields? ["valueType"] with
  | [v] => return ⟨← v.required Json.Draft.string?⟩
  | _ => none

end TypedFlag

/-- The body of the answer to a bundle request. -/
structure BundleResponse where
  signature : TypedFlag
  claims : TypedFlag
  deriving DecidableEq, Repr

namespace BundleResponse

def ofVerification (v : Verification) : BundleResponse :=
  ⟨.ofBool v.signature, .ofBool v.claims⟩

def verification (r : BundleResponse) : Except Error Verification := do
  let signature ← r.signature.value
  let claims ← r.claims.value
  return .new signature claims <|
    if !signature then "Registry rejected the claim signature"
    else if claims then "Participant claims verified by registry"
    else "Registry claims differ from asserted claims"

/-- The members in the order in which they are sent. -/
def json (r : BundleResponse) : Json :=
  .object
    [("verifySignatureSuccess", r.signature.json), ("verifyClaimsSuccess", r.claims.json)]

def ofDraft? (d : Json.Draft) : Option BundleResponse := do
  match ← d.fields? ["verifySignatureSuccess", "verifyClaimsSuccess"] with
  | [signature, claims] =>
    return ⟨← signature.required TypedFlag.ofDraft?, ← claims.required TypedFlag.ofDraft?⟩
  | _ => none

end BundleResponse

/-- The body that hands out registered claims. -/
structure ClaimsResponse where
  claims : ClaimSet

namespace ClaimsResponse

def json (r : ClaimsResponse) : Json := .object [("claims", r.claims.json)]

def ofDraft? (d : Json.Draft) : Option ClaimsResponse := do
  match ← d.fields? ["claims"] with
  | [claims] => return ⟨← claims.required ClaimSet.ofDraft?⟩
  | _ => none

end ClaimsResponse

/-- Reads a body by the reader of its type. -/
def ofBody? {α : Type} (read : Json.Draft → Option α) (body : List UInt8) : Option α :=
  (Json.Draft.parseBytes body).bind read

end Registry

end Attestation
