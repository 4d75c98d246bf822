import Attestation.Claims.Basic
import Attestation.Dialogue
import Attestation.Verification

/-!
What can be asked of a registry of participants.

A registry verifies a signed claim set as a whole, hands out the claims it has registered, or
says whether one registered claim has a given string form. The two protocols differ in which of
these a policy relies on.
-/

namespace Attestation

inductive Protocol where
  | bundle
  | perKey
  deriving DecidableEq, Repr

def Protocol.name : Protocol → String
  | .bundle => "bundle"
  | .perKey => "per_key"

def Protocol.ofName? (s : String) : Option Protocol :=
  if s = "bundle" then some .bundle else if s = "per_key" then some .perKey else none

namespace Registry

inductive Query where
  | bundle (participant signature : String) (claims : ClaimSet)
  | fetch (participant : String)
  | byKey (claimKey asserted participant : String)

abbrev Answer : Query → Type
  | .bundle _ _ _ => Verification
  | .fetch _ => Except Error ClaimSet
  | .byKey _ _ _ => Bool

end Registry

/-- A computation that consults a registry. -/
abbrev Consultation := Dialogue Registry.Query Registry.Answer

namespace Registry

/-- Whether the outcome of a lookup holds a claim with the asserted string form. A failed
lookup is reported. -/
def matchesRegistered {Q : Type} {A : Q → Type} (registered : Except Error ClaimSet)
    (claimKey asserted participant : String) : Dialogue Q A Bool :=
  match registered with
  | .error e => .warn (.lookupFailed participant claimKey e) (.done false)
  | .ok claims =>
    .done (match claims.get? claimKey with
      | some v => v.display == asserted
      | none => false)

end Registry

end Attestation
