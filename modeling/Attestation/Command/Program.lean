import Attestation.Command.Invocation
import Attestation.Policy.Engine
import Attestation.Registry.Client
import Attestation.Settings.Document

/-!
What the commands do.

A program says which files it reads and writes and which requests it sends, and leaves open how
that is done. It ends with something to show and a verdict, or fails; a failed program shows
nothing.
-/

namespace Attestation

/-- What a program needs from outside. -/
inductive Access where
  | read (path : String)
  /-- Makes a directory and the ones above it, as far as they are missing. -/
  | makeDirectory (path : String)
  /-- Replaces what is in a file, which nobody else may read if it is secret. -/
  | write (path content : String) (secret : Bool)
  /-- Asks for 32 random bytes. -/
  | randomSeed
  | now
  /-- Sends a request and waits for the answer so many seconds. -/
  | send (timeout : UInt64) (r : Registry.Request)

namespace Access

abbrev Answer : Access → Type
  | .read _ => Except FileFault (List UInt8)
  | .makeDirectory _ | .write _ _ _ => Except FileFault Unit
  | .randomSeed => Octets 32
  | .now => Time.Instant
  | .send _ _ => Registry.Reply

end Access

/-- Why a program fails. -/
inductive Failure where
  | error (e : Error)
  | file (fault : FileFault)
  deriving Repr

namespace Failure

/-- The word that a failure is known by. -/
def label : Failure → String
  | .error e => e.label
  | .file .notUtf8 => "Error"
  | .file _ => "Os"

def message : Failure → String
  | .error e => e.message
  | .file fault => fault.message

end Failure

/-- How a program ends that does not fail. -/
inductive Outcome where
  | positive (shown : String)
  | negative (shown : String)
  | invalidSignature
  deriving DecidableEq, Repr

namespace Outcome

def shown : Outcome → String
  | .positive s | .negative s => s
  | .invalidSignature => ""

/-- What is said apart from the output. -/
def remark : Outcome → Option String
  | .invalidSignature => some "✗ Signature invalid"
  | _ => none

end Outcome

abbrev Program := ExceptT Failure (Dialogue Access Access.Answer)

namespace Program

/-- Zero exactly if the program did not fail and its verdict is positive. -/
def exitCode : Except Failure Outcome → UInt32
  | .ok (.positive _) => 0
  | _ => 1

def access (a : Access) : Program a.Answer := ExceptT.lift (Dialogue.question a)

def ofExcept {α : Type} (r : Except Error α) : Program α := ExceptT.mk (.done (r.mapError .error))

def ofFile {α : Type} (r : Except FileFault α) : Program α :=
  ExceptT.mk (.done (r.mapError .file))

def makeDirectory (path : String) : Program Unit := do
  ofFile (← access (.makeDirectory path))

def write (path content : String) (secret : Bool) : Program Unit := do
  ofFile (← access (.write path content secret))

/-- Loads from the files at hand. -/
def loading {α : Type} (l : Loading α) : Program α :=
  ExceptT.mk <|
    (l.run.via fun path => (Dialogue.question (.read path) : Dialogue Access Access.Answer _)).bind
      fun r => .done (r.mapError .error)

/-- Talks to the registry. -/
def conversing {α : Type} (timeout : UInt64) (c : Registry.Conversation α) : Program α :=
  ExceptT.lift <|
    c.via fun r => (Dialogue.question (.send timeout r) : Dialogue Access Access.Answer _)

/-- The text of a file that is read for itself. -/
def text (path : String) : Program String := do
  let bytes ← ofFile (← access (.read path))
  match Text.ofUtf8? bytes with
  | some s => return s
  | none => throw (.file .notUtf8)

/-- The settings of a principal with the values of the environment in front. -/
def settings (environment : String → Option String) (p : Principal) : Program Settings := do
  let s ← match p.settingsPath with
    | some path => loading (Loading.settings path)
    | none => pure {}
  return s.overlay environment

/-- A file in a directory; a name that starts with a slash is a path of its own. -/
def pathIn (directory name : String) : String :=
  if name.startsWith "/" then name
  else if directory.endsWith "/" then directory ++ name
  else directory ++ "/" ++ name

def keygen (directory name : String) : Program Outcome := do
  makeDirectory directory
  let key : SigningKey := ⟨← access .randomSeed⟩
  let privatePath := pathIn directory (name ++ "_private.pem")
  let publicPath := pathIn directory (name ++ "_public.pem")
  write privatePath key.pem true
  write publicPath key.publicKey.pem false
  return .positive ("private key: " ++ privatePath ++ "\npublic key:  " ++ publicPath ++ "\n")

def sign (s : Settings) (participant : String) : Program Outcome := do
  let identity ← loading (Loading.identity participant s)
  return .positive (identity.token.json.pretty ++ "\n")

def verify (publicKeyPath claimsPath signature : String) : Program Outcome := do
  let key ← ofExcept (PublicKey.ofPem (← text publicKeyPath))
  let claims ← loading (Loading.claims claimsPath)
  if verifySignature key signature claims then
    return .positive ("✓ Signature is valid\n  Key: " ++ key.fingerprint ++ "\n")
  else return .invalidSignature

def verifyIdentity (s : Settings) (participant ns : String) : Program Outcome := do
  let identity ← loading (Loading.identity participant s)
  let client ← ofExcept (Registry.Client.ofSettings s.registry)
  let result ← conversing s.registry.timeout
    (client.verify identity.participant identity.signed.signature identity.signed.claims)
  let shown := (result.namespaced ns).pretty ++ "\n"
  return if result.success then .positive shown else .negative shown

/-- JSON where the text is some, and otherwise the text itself. -/
def operand (s : String) : Json := (Json.parse s).getD (.string s)

def evaluate (s : Settings) (participant left operator right : String)
    (protocol : Option Protocol) : Program Outcome := do
  let identity ← loading (Loading.identity participant s)
  let client ← ofExcept (Registry.Client.ofSettings s.registry)
  let op ← ofExcept (Operator.parse operator)
  let engine := Engine.standard (protocol.getD s.registry.protocol) .system
  let consultation := engine.evaluate (← access .now) ⟨left, op, operand right⟩ identity.token
  let (holds, _) ← conversing s.registry.timeout (consultation.interpret client.answer [])
  return if holds then .positive "✓ Constraint satisfied\n"
    else .negative "✗ Constraint not satisfied (see logs for the reason)\n"

end Program

/-- The program of a command. -/
def Command.program (environment : String → Option String) : Command → Program Outcome
  | .keygen directory name => Program.keygen directory name
  | .sign p => do Program.sign (← Program.settings environment p) p.participant
  | .verify publicKeyPath claimsPath signature =>
    Program.verify publicKeyPath claimsPath signature
  | .verifyIdentity p ns => do
    Program.verifyIdentity (← Program.settings environment p) p.participant ns
  | .evaluate p left operator right protocol => do
    Program.evaluate (← Program.settings environment p) p.participant left operator right protocol

end Attestation
