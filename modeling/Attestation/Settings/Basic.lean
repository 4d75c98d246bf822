import Attestation.Json.Printer
import Attestation.Registry.Wire
import Attestation.Warning

/-!
Where a participant keeps its claims and keys, and how it reaches the registry.

Every path and the address of the registry may be missing until they are needed; validation
names all missing ones at once. Values from the environment take precedence unless blank.
-/

namespace Attestation

structure RegistrySettings where
  url : Option String := none
  apiKey : Option String := none
  /-- Seconds to wait for an answer. -/
  timeout : UInt64 := 15
  /-- Seconds to keep a positive answer; zero keeps none. -/
  cacheTtl : UInt64 := 0
  cacheCapacity : UInt64 := 10000
  protocol : Protocol := .bundle
  deriving DecidableEq, Repr

namespace RegistrySettings

/-- Answers are kept. -/
def caches (s : RegistrySettings) : Bool := s.cacheTtl != 0

def stringOrNull : Option String → Json
  | some s => .string s
  | none => .null

def json (s : RegistrySettings) : Json :=
  .object
    [("api_key", stringOrNull s.apiKey), ("cache_capacity", .number (.natural s.cacheCapacity)),
      ("cache_ttl_secs", .number (.natural s.cacheTtl)), ("protocol", .string s.protocol.name),
      ("timeout_secs", .number (.natural s.timeout)), ("url", stringOrNull s.url)]

def fieldNames : List String :=
  ["url", "api_key", "timeout_secs", "cache_ttl_secs", "cache_capacity", "protocol"]

/-- A string, or nothing where null stands. -/
def stringOrNull? : Json.Draft → Option (Option String)
  | .null => some none
  | d => d.string?.map some

def ofDraft? (d : Json.Draft) : Option RegistrySettings := do
  match ← d.fields? fieldNames with
  | [url, apiKey, timeout, cacheTtl, cacheCapacity, protocol] =>
    return {
      url := ← url.withDefault none stringOrNull?
      apiKey := ← apiKey.withDefault none stringOrNull?
      timeout := ← timeout.withDefault 15 Json.Draft.natural?
      cacheTtl := ← cacheTtl.withDefault 0 Json.Draft.natural?
      cacheCapacity := ← cacheCapacity.withDefault 10000 Json.Draft.natural?
      protocol := ← protocol.withDefault .bundle Protocol.ofDraft? }
  | _ => none

end RegistrySettings

structure Settings where
  claimsPath : Option String := none
  privateKeyPath : Option String := none
  publicKeyPath : Option String := none
  registry : RegistrySettings := {}
  deriving DecidableEq, Repr

namespace Settings

open RegistrySettings (stringOrNull)

def json (s : Settings) : Json :=
  .object
    [("claims_path", stringOrNull s.claimsPath),
      ("private_key_path", stringOrNull s.privateKeyPath),
      ("public_key_path", stringOrNull s.publicKeyPath), ("registry", s.registry.json)]

/-! ### The environment -/

def claimsPathVariable : String := "CLAIMTRUST_CLAIMS_PATH"

def privateKeyPathVariable : String := "CLAIMTRUST_PRIVATE_KEY_PATH"

def publicKeyPathVariable : String := "CLAIMTRUST_PUBLIC_KEY_PATH"

def registryUrlVariable : String := "CLAIMTRUST_REGISTRY_URL"

def apiKeyVariable : String := "CLAIMTRUST_REGISTRY_API_KEY"

def variableNames : List String :=
  [claimsPathVariable, privateKeyPathVariable, publicKeyPathVariable, registryUrlVariable,
    apiKeyVariable]

/-- The value of a variable if it is not blank. -/
def variable_ (environment : String → Option String) (name : String) : Option String :=
  (environment name).filter (!Text.isBlank ·)

/-- The settings with the values of the environment in front. -/
def overlay (environment : String → Option String) (s : Settings) : Settings :=
  let read := variable_ environment
  { claimsPath := (read claimsPathVariable).or s.claimsPath
    privateKeyPath := (read privateKeyPathVariable).or s.privateKeyPath
    publicKeyPath := (read publicKeyPathVariable).or s.publicKeyPath
    registry :=
      { s.registry with
        url := (read registryUrlVariable).or s.registry.url
        apiKey := (read apiKeyVariable).or s.registry.apiKey } }

/-! ### Validation -/

/-- The address of the registry is there and not blank. -/
def hasUrl (s : Settings) : Bool := s.registry.url.any (!Text.isBlank ·)

/-- The required values that are missing, in a fixed order. -/
def missing (s : Settings) : List String :=
  (if s.claimsPath.isNone then ["claims_path"] else []) ++
    (if s.privateKeyPath.isNone then ["private_key_path"] else []) ++
    (if s.publicKeyPath.isNone then ["public_key_path"] else []) ++
    (if s.hasUrl then [] else ["registry.url"])

def validate (s : Settings) : Except Error Unit :=
  if s.missing ≠ [] then .error (.missingConfiguration s.missing)
  else if s.registry.timeout = 0 then .error (.configuration .zeroTimeout)
  else .ok ()

/-- What validation warns of. -/
def complaints (s : Settings) : List Warning :=
  if s.missing ≠ [] then s.missing.map .missingField
  else if s.registry.timeout = 0 then [.zeroTimeout]
  else []

end Settings

end Attestation
