import Attestation.Json.Record

/-!
The outcome of verifying a signed claim set: whether the signature holds, whether the claims
are the registered ones, whether that makes it a success, and a message. Every outcome is made by
`Verification.new`, which is where success is decided.
-/

namespace Attestation

structure Verification where
  signature : Bool
  claims : Bool
  success : Bool
  message : String
  deriving DecidableEq, Repr

namespace Verification

/-- A success takes both flags. -/
def new (signature claims : Bool) (message : String) : Verification :=
  ⟨signature, claims, signature && claims, message⟩

def failed (message : String) : Verification := new false false message

section New

variable (signature claims : Bool) (message : String)

@[simp] theorem signature_new : (new signature claims message).signature = signature := rfl

@[simp] theorem claims_new : (new signature claims message).claims = claims := rfl

@[simp] theorem success_new : (new signature claims message).success = (signature && claims) := rfl

end New

/-- The members under keys that start with `ns`. -/
def namespaced (ns : String) (v : Verification) : Json :=
  .object <| Keyed.ofList
    [(ns ++ "signatureResult", .bool v.signature), (ns ++ "claimsResult", .bool v.claims),
      (ns ++ "success", .bool v.success), (ns ++ "message", .string v.message)]

def json (v : Verification) : Json := v.namespaced ""

/-- The namespace that results are published under. -/
def defaultNamespace : String := "https://w3id.org/edc/v0.0.1/ns/"

/-- Reads the two flags and the message, which may be missing; a stated success is not looked
at. -/
def ofDraft? (d : Json.Draft) : Option Verification := do
  match ← d.fields? ["signatureResult", "claimsResult", "message"] with
  | [signature, claims, message] =>
    return new (← signature.required Json.Draft.bool?) (← claims.required Json.Draft.bool?)
      (← message.withDefault "" Json.Draft.string?)
  | _ => none

end Verification

end Attestation
