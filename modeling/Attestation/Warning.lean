import Attestation.Error

/-!
What is reported on the way to an answer, without changing the answer.
-/

namespace Attestation

inductive Warning where
  /-- The claims of a participant could not be looked up. -/
  | lookupFailed (participant claimKey : String) (cause : Error)
  /-- A signed claim set could not be put before the registry. -/
  | bundleFailed (participant : String) (cause : Error)
  /-- A constraint was given up; the participant is named if it names itself. -/
  | rejected (claimKey operator : String) (participant : Option String) (cause : Error)
  /-- A constraint on the time was given up. -/
  | timeRejected (claimKey operator : String) (cause : Error)
  /-- No function answers for the claim. -/
  | unbound (claimKey : String)
  | missingField (field : String)
  | zeroTimeout
  deriving Repr

namespace Warning

def message : Warning → String
  | .lookupFailed _ _ _ => "registry lookup failed"
  | .bundleFailed _ _ => "registry bundle verification failed"
  | .rejected _ _ _ _ => "constraint not satisfied"
  | .timeRejected _ _ _ => "time constraint not satisfied"
  | .unbound _ => "no constraint function bound"
  | .missingField _ => "required configuration value is not set"
  | .zeroTimeout => "registry timeout must be positive"

/-- The named details of a warning. -/
def fields : Warning → List (String × String)
  | .lookupFailed participant claimKey cause =>
    [("participant_id", participant), ("claim_key", claimKey), ("error", cause.message)]
  | .bundleFailed participant cause =>
    [("participant_id", participant), ("error", cause.message)]
  | .rejected claimKey operator participant cause =>
    [("claim_key", claimKey), ("operator", operator),
      ("participant_id", participant.getD "<unknown>"), ("error", cause.message)]
  | .timeRejected claimKey operator cause =>
    [("claim_key", claimKey), ("operator", operator), ("error", cause.message)]
  | .unbound claimKey => [("claim_key", claimKey)]
  | .missingField field => [("field", field)]
  | .zeroTimeout => [("field", "registry.timeout_secs")]

end Warning

end Attestation
