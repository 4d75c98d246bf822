import Attestation.Settings.Basic
import Attestation.Url.Parser

/-!
A registry reached over HTTP.

Signed claim sets are posted to one resource below the registry's address; the claims of a
participant are fetched from the resource named by its id. Nothing but a complete answer of
the right status with a body of the right shape counts. A client may keep what was
corroborated: for a participant and a key the last value that a fetch confirmed. What is kept
stays, whatever its age and however much there is.
-/

namespace Attestation.Registry

inductive Method where
  | get
  | post
  deriving DecidableEq, Repr

def Method.name : Method → String
  | .get => "GET"
  | .post => "POST"

structure Request where
  method : Method
  url : Url
  apiKey : Option String
  body : Option String
  deriving DecidableEq, Repr

/-- What comes back for a request. -/
inductive Reply where
  | nothing
  /-- A status with a body, which is missing if the connection ended before it was complete. -/
  | response (status : Nat) (body : Option (List UInt8))
  deriving DecidableEq, Repr, Inhabited

/-- A computation that sends requests. -/
abbrev Conversation := Dialogue Request (fun _ => Reply)

structure Client where
  base : Url
  apiKey : Option String
  caching : Bool

/-- Confirmed values by participant and claim key. -/
abbrev Cache := List ((String × String) × String)

namespace Cache

def lookup (c : Cache) (participant claimKey : String) : Option String :=
  (c.find? fun e => e.1 == (participant, claimKey)).map Prod.snd

def insert (c : Cache) (participant claimKey value : String) : Cache :=
  ((participant, claimKey), value) :: c.filter fun e => e.1 != (participant, claimKey)

end Cache

namespace Client

/-- The text of an address without white space around it and slashes at its end. -/
def trimUrl (s : String) : List Char :=
  Text.dropEndWhile (· == '/') (Text.trimChars s.toList)

/-- A client without key and cache for the registry at an address. -/
def ofUrl (s : String) : Except Error Client :=
  let trimmed := trimUrl s
  if trimmed.isEmpty then .error (.missingConfiguration ["registry.url"])
  else match Url.parse trimmed with
    | .ok base => .ok ⟨base, none, false⟩
    | .error .malformed => .error (.configuration (.badUrl (String.ofList trimmed)))
    | .error .noPath => .error (.configuration (.noPath (String.ofList trimmed)))

/-- The client that settings describe; an empty key is none. -/
def ofSettings (s : RegistrySettings) : Except Error Client := do
  let some url := s.url | throw (.missingConfiguration ["registry.url"])
  let client ← ofUrl url
  return { client with apiKey := s.apiKey.filter (!·.isEmpty), caching := s.caches }

/-- What is shown of a client: not its key. -/
def display (c : Client) : String :=
  "HttpRegistryClient \x7b base_url: " ++ String.ofList (Json.quote c.base.text) ++
    ", api_key: " ++ (if c.apiKey.isSome then "Some(\"***\")" else "None") ++
    ", cache: " ++ String.ofList (Json.boolChars c.caching) ++ " \x7d"

/-! ### Requests -/

def verificationUrl (c : Client) : Url := c.base.child "verification"

/-- Where the claims of a participant are: the id is put below the registry's address as one
segment, if it can be one. The ids `.` and `..` cannot, nor can one with characters that addresses
drop. -/
def participantUrl (c : Client) (id : String) : Url := c.base.child id

/-- The characters that the name of a host may have in a request. -/
def isHostChar (c : Char) : Bool :=
  c.isAlphanum ||
    ['!', '$', '&', '\'', '(', ')', '*', '+', ',', '-', '.', ';', '=', '_', '~'].contains c

def fitsRequest : Url.Host → Bool
  | .domain name => name.all isHostChar
  | .v4 _ | .v6 _ => true

/-- The most bytes that the address of a request may have. -/
def addressLimit : Nat := 65534

/-- A request can be sent to an address of one of two schemes, if its host fits in a request and
it is not too long. -/
def canSend (url : Url) : Bool :=
  (url.scheme == "http".toList || url.scheme == "https".toList) && url.host?.any fitsRequest &&
    (Text.utf8Chars url.withoutCredentials.chars).length ≤ addressLimit

/-- A key that fits in a header has no control characters but tabs. -/
def fitsHeader (key : String) : Bool :=
  key.toList.all fun c => c == '\t' || (0x20 ≤ c.toNat && c != '\x7f')

def unsendable (url : Url) : Error :=
  .registryUnavailable ("builder error for url (" ++ url.withoutCredentials.text ++ ")")

def unanswered (url : Url) : Error :=
  .registryUnavailable
    ("error sending request for url (" ++ url.withoutCredentials.text ++ ")")

/-- What a reply to a request comes to: its status has to be wanted, and its body is read. -/
def received {α : Type} (wanted : Nat → Bool) (read : Json.Draft → Option α) (url : Url) :
    Reply → Except Error α
  | .nothing => .error (unanswered url)
  | .response status body =>
    if wanted status then
      match body.bind (ofBody? read) with
      | some a => .ok a
      | none => .error (.malformedResponse .undecodable)
    else .error (.registryStatus status url.text)

/-- Sends a request, unless it cannot be sent. That there is a host is looked at before the key,
and all else about the address after it. -/
def exchange {α : Type} (wanted : Nat → Bool) (read : Json.Draft → Option α) (r : Request) :
    Conversation (Except Error α) :=
  if r.url.host?.isNone then .done (.error (unsendable r.url))
  else if !r.apiKey.all fitsHeader then .done (.error (.registryUnavailable "builder error"))
  else if !canSend r.url then .done (.error (unsendable r.url))
  else .ask r fun reply => .done (received wanted read r.url reply)

def isSuccess (status : Nat) : Bool := 200 ≤ status && status < 300

def bundleRequest (c : Client) (id signature : String) (claims : ClaimSet) : Request :=
  ⟨.post, c.verificationUrl, none, some (BundleRequest.mk id signature claims).json.text⟩

/-- Has the registry verify a signed claim set. -/
def tryVerify (c : Client) (id signature : String) (claims : ClaimSet) :
    Conversation (Except Error Verification) :=
  (exchange isSuccess BundleResponse.ofDraft? (c.bundleRequest id signature claims)).bind
    fun r => .done (r.bind BundleResponse.verification)

/-- The same; an error is reported and means that nothing was verified. -/
def verify (c : Client) (id signature : String) (claims : ClaimSet) :
    Conversation Verification :=
  (c.tryVerify id signature claims).bind fun
    | .ok v => .done v
    | .error e => .warn (.bundleFailed id e) (.done (.failed e.message))

def fetchRequest (c : Client) (id : String) : Request :=
  ⟨.get, c.participantUrl id, c.apiKey, none⟩

/-- The claims that the registry has of a participant. -/
def fetch (c : Client) (id : String) : Conversation (Except Error ClaimSet) :=
  (exchange (· == 200) ClaimsResponse.ofDraft? (c.fetchRequest id)).bind
    fun r => .done (r.map (·.claims))

/-- Whether the registered claim has the asserted string form, without a cache. -/
def confirm (c : Client) (key asserted id : String) : Conversation Bool :=
  (c.fetch id).bind fun registered => matchesRegistered registered key asserted id

/-- The same with the cache: a kept answer needs no request, and only a positive one is kept. -/
def confirmCached (c : Client) (key asserted id : String) (cache : Cache) :
    Conversation (Bool × Cache) :=
  if c.caching && cache.lookup id key == some asserted then .done (true, cache)
  else (c.confirm key asserted id).bind fun b =>
    .done (b, if c.caching && b then cache.insert id key asserted else cache)

/-- How the client answers a registry's questions. -/
def answer (c : Client) :
    (q : Query) → Cache → Conversation (Answer q × Cache)
  | .bundle id signature claims, cache =>
    (c.verify id signature claims).bind fun v => .done (v, cache)
  | .fetch id, cache => (c.fetch id).bind fun r => .done (r, cache)
  | .byKey key asserted id, cache => c.confirmCached key asserted id cache

end Client

end Attestation.Registry
