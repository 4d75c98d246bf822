import Attestation.Command.Arguments
import Attestation.Settings.Basic
import Attestation.Verification

/-!
The commands and how they are asked for.

A command line names one command, with options before and after its name. The log level may be
given in either place.
-/

namespace Attestation

/-- Who a command is run for, and where the settings are, unless they are the standard ones. -/
structure Principal where
  participant : String
  settingsPath : Option String
  deriving DecidableEq, Repr

inductive Command where
  /-- Makes a key pair and writes it to two files. -/
  | keygen (directory name : String)
  /-- Signs the principal's claims and shows the agent that stands for it. -/
  | sign (principal : Principal)
  /-- Checks a signature of claims. -/
  | verify (publicKeyPath claimsPath signature : String)
  /-- Has the registry verify the principal. -/
  | verifyIdentity (principal : Principal) (ns : String)
  /-- Decides a constraint on the principal, whose right operand may be JSON. -/
  | evaluate (principal : Principal) (left operator right : String) (protocol : Option Protocol)
  deriving DecidableEq, Repr

namespace Command

/-- The values of options, as far as they have one. -/
abbrev Values := Parameter → Except Refusal (Option String)

/-- The value of an option that has to have one. -/
def Values.required (values : Values) (p : Parameter) : Except Refusal String := do
  match ← values p with
  | some v => return v
  | none => throw (.misuse (.missingOption p.name))

/-- A command, its options, and what they make of it. -/
structure Form where
  name : String
  parameters : List Parameter
  build : Values → Except Refusal Command

def isPath (s : String) : Bool := !s.isEmpty

/-! ### Options -/

def logLevel : Parameter :=
  { name := "log-level", fromEnvironment := some "RUST_LOG", standard := some "info" }

def outDir : Parameter :=
  { name := "out-dir", letter := some 'o', standard := some ".", accepts := isPath }

def keyName : Parameter := { name := "name", letter := some 'n', standard := some "ed25519" }

def settingsPath : Parameter :=
  { name := "config", letter := some 'c', fromEnvironment := some "CLAIMTRUST_CONFIG",
    accepts := isPath }

def participantId : Parameter :=
  { name := "participant-id", letter := some 'p',
    fromEnvironment := some "CLAIMTRUST_PARTICIPANT_ID" }

def publicKeyPath : Parameter := { name := "public-key", accepts := isPath }

def claimsPath : Parameter := { name := "claims", accepts := isPath }

def signature : Parameter := { name := "signature" }

def resultNamespace : Parameter :=
  { name := "namespace", standard := some Verification.defaultNamespace }

def left : Parameter := { name := "left" }

def operator : Parameter := { name := "operator" }

def right : Parameter := { name := "right" }

/-- The protocols as options name them. -/
def protocolOfOption? (s : String) : Option Protocol :=
  match s with
  | "bundle" => some .bundle
  | "per-key" => some .perKey
  | _ => none

def protocol : Parameter :=
  { name := "protocol", accepts := fun s => (protocolOfOption? s).isSome }

/-! ### Forms -/

def principal (values : Values) : Except Refusal Principal := do
  return ⟨← values.required participantId, ← values settingsPath⟩

def keygenForm : Form where
  name := "keygen"
  parameters := [outDir, keyName]
  build values := do
    return .keygen (← values.required outDir) (← values.required keyName)

def signForm : Form where
  name := "sign"
  parameters := [settingsPath, participantId]
  build values := do return .sign (← principal values)

def verifyForm : Form where
  name := "verify"
  parameters := [publicKeyPath, claimsPath, signature]
  build values := do
    let key ← values.required publicKeyPath
    let claims ← values.required claimsPath
    return .verify key claims (← values.required signature)

def verifyIdentityForm : Form where
  name := "verify-identity"
  parameters := [settingsPath, participantId, resultNamespace]
  build values := do
    return .verifyIdentity (← principal values) (← values.required resultNamespace)

def evaluateForm : Form where
  name := "evaluate"
  parameters := [settingsPath, participantId, left, operator, right, protocol]
  build values := do
    let who ← principal values
    let l ← values.required left
    let op ← values.required operator
    let r ← values.required right
    return .evaluate who l op r ((← values protocol).bind protocolOfOption?)

def forms : List Form := [keygenForm, signForm, verifyForm, verifyIdentityForm, evaluateForm]

def form? (name : String) : Option Form := forms.find? (·.name == name)

end Command

/-- A command and how much is to be reported while it runs. -/
structure Invocation where
  command : Command
  logLevel : String
  deriving DecidableEq, Repr

namespace Invocation

open Command (form? forms)

/-- The help that is asked for by a command of its own, for all commands or for one. -/
def help : List String → Refusal
  | [] => .help
  | [name] =>
    if name == "help" || (form? name).isSome then .help else .misuse (.unknownCommand name)
  | _ :: argument :: _ => .misuse (.unexpectedArgument argument)

/-- The command that a line asks for. -/
def parse (environment : String → Option String) (args : List String) :
    Except Refusal Invocation := do
  let (outer, rest) ← Given.read [Command.logLevel] [] args
  match rest with
  | [] => throw (.misuse .missingCommand)
  | name :: rest =>
    if name == "help" then throw (help rest)
    match form? name with
    | none => throw (.misuse (.unknownCommand name))
    | some form =>
      let (inner, rest) ← Given.read (Command.logLevel :: form.parameters) [] rest
      if let argument :: _ := rest then throw (.misuse (.unexpectedArgument argument))
      let command ← form.build (inner.value? environment)
      let level ← Command.Values.required ((inner ++ outer).value? environment) Command.logLevel
      return ⟨command, level⟩

/-- The variables of the environment that options or settings are taken from. -/
def environmentVariables : List String :=
  (Command.logLevel :: forms.flatMap (·.parameters)).filterMap (·.fromEnvironment) ++
    Settings.variableNames

/-- How an option is written. -/
def describe (p : Parameter) : String :=
  (p.letter.map fun c => String.ofList ['-', c, ',', ' ']).getD "    " ++
    "--" ++ p.name ++ " <value>"

/-- A line for each command, followed by the options that it has. -/
def usage : String :=
  "Usage: [--log-level <value>] <command> [options]\n" ++
    String.join (forms.map fun form =>
      "\n" ++ form.name ++ "\n" ++
        String.join (form.parameters.map fun p => "  " ++ describe p ++ "\n"))

end Invocation

end Attestation
