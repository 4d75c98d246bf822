import Attestation.Key
import Attestation.Registry.Query

/-!
A registry that holds the records of its participants.

A record is a public key in PEM and the registered claims. Every answer is taken from the
records as they are at the time.
-/

namespace Attestation

structure ParticipantRecord where
  publicKeyPem : String
  claims : ClaimSet

namespace ParticipantRecord

def json (r : ParticipantRecord) : Json :=
  .object [("claims", r.claims.json), ("publicKeyPem", .string r.publicKeyPem)]

def ofDraft? (d : Json.Draft) : Option ParticipantRecord := do
  match ← d.fields? ["publicKeyPem", "claims"] with
  | [pem, claims] =>
    return ⟨← pem.required Json.Draft.string?, ← claims.required ClaimSet.ofDraft?⟩
  | _ => none

end ParticipantRecord

/-- Records under increasing participant ids. -/
structure Directory where
  records : List (String × ParticipantRecord)

namespace Directory

def empty : Directory := ⟨[]⟩

def register (d : Directory) (id : String) (r : ParticipantRecord) : Directory :=
  ⟨Keyed.insert id r d.records⟩

def lookup (d : Directory) (id : String) : Option ParticipantRecord := Keyed.find? id d.records

/-- Replaces the claims of a registered participant. Tells whether there is one. -/
def updateClaims (d : Directory) (id : String) (claims : ClaimSet) : Bool × Directory :=
  match d.lookup id with
  | some r => (true, d.register id { r with claims := claims })
  | none => (false, d)

/-- Removes a participant and hands back its record. -/
def remove (d : Directory) (id : String) : Option ParticipantRecord × Directory :=
  (d.lookup id, ⟨Keyed.erase id d.records⟩)

def size (d : Directory) : Nat := d.records.length

def isEmpty (d : Directory) : Bool := d.records.isEmpty

def registeredClaims (d : Directory) (id : String) : Option ClaimSet :=
  (d.lookup id).map (·.claims)

/-- Verifies a signed claim set against the record of a participant. -/
def verify (d : Directory) (id signature : String) (claims : ClaimSet) : Verification :=
  match d.lookup id with
  | none => .failed ("Participant not registered with id: " ++ id)
  | some r =>
    let signed := verifySignaturePem r.publicKeyPem signature claims
    let registered := r.claims.same claims
    .new signed registered <|
      match signed, registered with
      | true, true => "Signature and claims verified"
      | false, true => "Signature does not match the registered public key"
      | true, false => "Claims differ from the registered claims"
      | false, false => "Signature and claims verification failed"

def fetch (d : Directory) (id : String) : Except Error ClaimSet :=
  match d.registeredClaims id with
  | some claims => .ok claims
  | none => .error (.unknownParticipant id)

/-- How the directory answers a registry's questions. -/
def answer {Q : Type} {A : Q → Type} (d : Directory) :
    (q : Registry.Query) → Dialogue Q A (Registry.Answer q)
  | .bundle id signature claims => .done (d.verify id signature claims)
  | .fetch id => .done (d.fetch id)
  | .byKey key asserted id => Registry.matchesRegistered (d.fetch id) key asserted id

end Directory

end Attestation
