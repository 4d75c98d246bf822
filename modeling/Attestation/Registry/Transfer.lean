import Attestation.Encoding.Base64
import Attestation.Registry.Client

/-!
Requests and replies in the form that HTTP/1.1 gives them.

Every request has a connection of its own, and a reply is read once that connection is closed.
A body that is shorter than was announced, or whose chunks break off, is missing.
-/

namespace Attestation.Registry

/-! ### Requests -/

def lineEnd : List Char := ['\r', '\n']

/-- The credentials that an address carries. -/
def Request.credentials? (r : Request) : Option (List Char) := do
  let a ← r.url.authority
  if a.user.isEmpty && a.password.isEmpty then none
  else some (Base64.encode (Percent.decode a.user ++ 0x3A :: Percent.decode a.password))

/-- The named lines of the head. -/
def Request.headers (r : Request) : List (String × List Char) :=
  [("host", (r.url.authority.map Url.Authority.place).getD []),
    ("accept", "*/*".toList), ("connection", "close".toList)] ++
    (r.credentials?.map fun c => ("authorization", "Basic ".toList ++ c)).toList ++
    (r.apiKey.map fun key => ("x-api-key", key.toList)).toList ++
    match r.body with
    | some body =>
      [("content-type", "application/json".toList),
        ("content-length", Nat.toDigits 10 body.utf8ByteSize)]
    | none => []

def Request.bytes (r : Request) : List UInt8 :=
  let first := r.method.name.toList ++ ' ' :: r.url.target ++ " HTTP/1.1".toList ++ lineEnd
  let named := r.headers.flatMap fun (name, value) => name.toList ++ ':' :: ' ' :: value ++ lineEnd
  Text.utf8Chars (first ++ named ++ lineEnd) ++ (r.body.map Text.utf8).getD []

/-! ### Replies -/

namespace Reply

def isLineFeed (b : UInt8) : Bool := b == 10

/-- The first line, and what follows it. -/
def takeLine (b : List UInt8) : Option (List Char × { rest : List UInt8 // rest.length < b.length }) :=
  match h : b.dropWhile (!isLineFeed ·) with
  | [] => none
  | _ :: rest =>
    let line := (b.takeWhile (!isLineFeed ·)).map fun x => Char.ofNat x.toNat
    some (Text.trimChars line, ⟨rest, by
      have := (List.dropWhile_sublist (l := b) (!isLineFeed ·)).length_le
      rw [h] at this
      simp only [List.length_cons] at this
      omega⟩)

/-- The named lines up to the empty one, and what follows it. -/
def takeHeaders (b : List UInt8) : Option (List (String × List Char) × List UInt8) := do
  let (line, ⟨rest, _⟩) ← takeLine b
  if line.isEmpty then some ([], rest)
  else
    let (more, body) ← takeHeaders rest
    let name := (line.takeWhile (· != ':')).map Char.toLower
    return ((String.ofList name, Text.trimChars (line.dropWhile (· != ':')).tail) :: more, body)
termination_by b.length

/-- The status in the first line. -/
def status? (line : List Char) : Option Nat :=
  match Text.splitChars (· == ' ') line with
  | version :: code :: _ =>
    if "HTTP/".toList.isPrefixOf version && code.length == 3 then (String.ofList code).toNat?
    else none
  | _ => none

def hexNumber? (s : List Char) : Option Nat :=
  if s.isEmpty then none
  else (s.mapM Text.hexValue?).map fun ds => ds.foldl (fun n d => 16 * n + d) 0

/-- The content of a body that comes in chunks. -/
def joinChunks (b : List UInt8) : Option (List UInt8) := do
  let (line, ⟨rest, _⟩) ← takeLine b
  match ← hexNumber? (Text.trimChars (line.takeWhile (· != ';'))) with
  | 0 => return []
  | n + 1 =>
    if rest.length < n + 1 then none
    else do
      let more ← joinChunks (rest.drop (n + 3))
      return rest.take (n + 1) ++ more
termination_by b.length
decreasing_by
  simp only [List.length_drop]
  omega

/-- The body that the named lines announce. -/
def body? (headers : List (String × List Char)) (b : List UInt8) : Option (List UInt8) :=
  if headers.lookup "transfer-encoding" = some "chunked".toList then joinChunks b
  else match headers.lookup "content-length" with
    | none => some b
    | some n => do
      let n ← (String.ofList n).toNat?
      if b.length < n then none else some (b.take n)

/-- What came back over a connection. -/
def ofBytes (b : List UInt8) : Reply :=
  let read : Option Reply := do
    let (line, ⟨rest, _⟩) ← takeLine b
    let status ← status? line
    let (headers, content) ← takeHeaders rest
    return .response status (body? headers content)
  read.getD .nothing

end Reply

end Attestation.Registry
