import Attestation.Key
import Attestation.Policy.Agent

/-!
A participant with its own keys and its signed claims.
-/

namespace Attestation

structure Identity where
  participant : String
  keys : KeyPair
  signed : SignedClaims

namespace Identity

/-- Signs the claims; the participant needs a name that is not blank. -/
def ofParts (participant : String) (claims : ClaimSet) (keys : KeyPair) :
    Except Error Identity :=
  if Text.isBlank participant then .error (.missingConfiguration ["participant_id"])
  else .ok ⟨participant, keys, SignedClaims.sign claims keys.signing⟩

/-- The agent that stands for the participant elsewhere. -/
def token (i : Identity) : Agent :=
  .ofIdentity i.participant i.signed.claims i.signed.signature

end Identity

end Attestation
