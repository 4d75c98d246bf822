import Attestation.Identity
import Attestation.Settings.Basic

/-!
Loading claims, keys and identities from files.

The settings are validated before any file is opened, and files are read in a fixed order:
claims, private key, public key. Key documents are looked into once both are read.
-/

namespace Attestation

/-- A computation that reads files by their paths and may fail. -/
abbrev Loading := ExceptT Error (Dialogue String fun _ => Except FileFault (List UInt8))

namespace Loading

/-- The text of a file. -/
def text (path : String) : Loading String :=
  ExceptT.mk <| .ask path fun content => .done <|
    match content with
    | .error fault => .error (.io path fault)
    | .ok bytes => (Text.ofUtf8? bytes).elim (.error (.io path .notUtf8)) .ok

/-- Gives warnings. -/
def warn (ws : List Warning) : Loading Unit :=
  ExceptT.mk <| ws.foldr .warn (.done (.ok ()))

/-- The claim set in a file. -/
def claims (path : String) : Loading ClaimSet := do
  let s ← text path
  match ClaimSet.parse? s with
  | some c => return c
  | none => throw (.invalidClaims path)

/-- A key document was refused because of what is in its file. -/
def inKeyFile {α : Type} (path : String) (r : Except Error α) : Except Error α :=
  r.mapError (.invalidKeyFile path)

/-- The key pair in two files. -/
def keyPair (privatePath publicPath : String) : Loading KeyPair := do
  let privatePem ← text privatePath
  let publicPem ← text publicPath
  let signing ← inKeyFile privatePath (SigningKey.ofPem privatePem)
  let verifying ← inKeyFile publicPath (PublicKey.ofPem publicPem)
  KeyPair.ofParts signing verifying

/-- The identity of a participant from the files that its settings name. -/
def identity (participant : String) (s : Settings) : Loading Identity := do
  warn s.complaints
  s.validate
  match s.claimsPath, s.privateKeyPath, s.publicKeyPath with
  | some claimsPath, some privatePath, some publicPath =>
    let c ← claims claimsPath
    let keys ← keyPair privatePath publicPath
    Identity.ofParts participant c keys
  | _, _, _ => throw (.configuration .pathsGone)

end Loading

end Attestation
