import Attestation.Loading
import Attestation.Yaml.Node

/-!
Settings written in YAML.

Text is taken as it stands, whatever it looks like; a number is plain text in decimal,
hexadecimal, octal or binary. A mapping may have keys that name no setting, but gives none
twice. A mapping that is left out is an empty one, while a null may only stand for a value that
may be missing.
-/

namespace Attestation

namespace Settings

open Yaml

/-- The words for null. -/
def isNullWord (s : List Char) : Bool :=
  ["null", "Null", "NULL", "~"].contains (String.ofList s)

def nullTag : List UInt8 := Text.utf8 "tag:yaml.org,2002:null"

def intTag : List UInt8 := Text.utf8 "tag:yaml.org,2002:int"

/-- The text of a scalar. -/
def text? (d : Document) (n : Node) : Option String :=
  match d.resolve n with
  | some (.scalar _ _ s) => some (String.ofList s)
  | _ => none

/-- Text, or nothing where null stands or the value is left out. Only plain text can be null;
it has to be when it is tagged so, and cannot be with another tag. -/
def textOrNull? (d : Document) (n : Node) : Option (Option String) :=
  match d.resolve n with
  | some (.scalar (some tag) .plain s) =>
    if tag = nullTag then if isNullWord s then some none else none
    else some (some (String.ofList s))
  | some (.scalar none .plain s) =>
    if s.isEmpty || isNullWord s then some none else some (some (String.ofList s))
  | some (.scalar _ _ s) => some (some (String.ofList s))
  | _ => none

def digitValue? (radix : Nat) (c : Char) : Option Nat := (Text.hexValue? c).filter (· < radix)

/-- The value of one or more digits. -/
def ofDigits? (radix : Nat) (s : List Char) : Option Nat :=
  if s.isEmpty then none
  else (s.mapM (digitValue? radix)).map fun ds => ds.foldl (fun n d => radix * n + d) 0

/-- A whole number: with a mark for its radix, or decimal without zeros in front; a plus sign
may come first. -/
def ofNumeral? (s : List Char) : Option Nat :=
  let s := match s with
    | '+' :: s => s
    | s => s
  match s with
  | '0' :: 'x' :: ds => ofDigits? 16 ds
  | '0' :: 'o' :: ds => ofDigits? 8 ds
  | '0' :: 'b' :: ds => ofDigits? 2 ds
  | '0' :: _ :: _ => none
  | ds => ofDigits? 10 ds

/-- A whole number of 64 bits in plain text, or in a literal block tagged as one. -/
def natural? (d : Document) (n : Node) : Option UInt64 := do
  let some (.scalar tag style s) := d.resolve n | none
  if style = .plain ∨ (style = .literal ∧ tag = some intTag) then
    let v ← ofNumeral? s
    if v < UInt64.size then some (UInt64.ofNat v) else none
  else none

/-- The name in a tag of one's own, which starts with an exclamation mark. -/
def nameOfTag? : List UInt8 → Option String
  | [] => none
  | mark :: rest =>
    if mark = 0x21 then Text.ofUtf8? (if rest.isEmpty then Token.bareTag else rest) else none

/-- A protocol by its name, or by a tag of its own on a plain null. -/
def protocol? (d : Document) (n : Node) : Option Protocol := do
  let some (.scalar tag style s) := d.resolve n | none
  match tag.bind nameOfTag? with
  | some name =>
    if style = .plain ∧ (s.isEmpty ∨ isNullWord s) then Protocol.ofName? name else none
  | none => Protocol.ofName? (String.ofList s)

/-- The pairs of a mapping. -/
def pairs? (d : Document) (n : Node) : Option (List (String × Node)) :=
  match d.resolve n with
  | some (.mapping _ pairs) => pairs.mapM fun (k, v) => (text? d k).map (·, v)
  | some (.scalar _ .plain []) => some []
  | _ => none

/-- The value under a key, which may not be there twice, or a value to fall back on. -/
def valueAt {α : Type} (pairs : List (String × Node)) (key : String) (default : α)
    (read : Node → Option α) : Option α :=
  match pairs.filter (·.1 == key) with
  | [] => some default
  | [(_, n)] => read n
  | _ => none

def registryOfNode? (d : Document) (n : Node) : Option RegistrySettings := do
  let pairs ← pairs? d n
  return {
    url := ← valueAt pairs "url" none (textOrNull? d)
    apiKey := ← valueAt pairs "api_key" none (textOrNull? d)
    timeout := ← valueAt pairs "timeout_secs" 15 (natural? d)
    cacheTtl := ← valueAt pairs "cache_ttl_secs" 0 (natural? d)
    cacheCapacity := ← valueAt pairs "cache_capacity" 10000 (natural? d)
    protocol := ← valueAt pairs "protocol" .bundle (protocol? d) }

def ofNode? (d : Document) (n : Node) : Option Settings := do
  let pairs ← pairs? d n
  return {
    claimsPath := ← valueAt pairs "claims_path" none (textOrNull? d)
    privateKeyPath := ← valueAt pairs "private_key_path" none (textOrNull? d)
    publicKeyPath := ← valueAt pairs "public_key_path" none (textOrNull? d)
    registry := ← valueAt pairs "registry" {} (registryOfNode? d) }

/-- The settings that a document describes; an empty text describes the standard ones. -/
def ofDocument? (d : Document) : Option Settings :=
  match d.root with
  | none => some {}
  | some n => ofNode? d n

def ofYaml (text : String) : Except Error Settings :=
  match (Document.parse? text).bind ofDocument? with
  | some s => .ok s
  | none => .error (.configuration .badYaml)

end Settings

/-- The settings in a file. -/
def Loading.settings (path : String) : Loading Settings := do
  let s ← text path
  Settings.ofYaml s

end Attestation
