import Attestation.Url.Host

/-!
Addresses of resources whose path is made of segments.

An address has a scheme, perhaps an authority, a path, and perhaps a query and a fragment, all
kept in their encoded form. The path of a special scheme has at least one segment.
-/

namespace Attestation

namespace Url

structure Authority where
  user : List Char
  password : List Char
  /-- The host, unless it is left empty. -/
  host : Option Host
  /-- The port, unless it is the one that the scheme implies. -/
  port : Option Nat
  deriving DecidableEq, Repr

end Url

structure Url where
  scheme : List Char
  authority : Option Url.Authority
  path : List (List Char)
  query : Option (List Char)
  fragment : Option (List Char)
  deriving DecidableEq, Repr

namespace Url

def file : List Char := ['f', 'i', 'l', 'e']

/-- The port that a special scheme implies; the scheme of files has none. -/
def defaultPort? (scheme : List Char) : Option Nat :=
  match String.ofList scheme with
  | "http" | "ws" => some 80
  | "https" | "wss" => some 443
  | "ftp" => some 21
  | _ => none

/-- Special schemes have an authority, and a backslash is a slash to them. -/
def isSpecialScheme (scheme : List Char) : Bool :=
  scheme == file || (defaultPort? scheme).isSome

def isSpecial (u : Url) : Bool := isSpecialScheme u.scheme

def Authority.credentials (a : Authority) : List Char :=
  if a.user.isEmpty && a.password.isEmpty then []
  else if a.password.isEmpty then a.user ++ ['@']
  else a.user ++ ':' :: a.password ++ ['@']

def Authority.place (a : Authority) : List Char :=
  (a.host.map Host.chars).getD [] ++ (a.port.map fun n => ':' :: Nat.toDigits 10 n).getD []

def Authority.chars (a : Authority) : List Char := a.credentials ++ a.place

def pathChars (path : List (List Char)) : List Char := path.flatMap ('/' :: ·)

/-- An address without authority whose path starts with an empty segment has a dot put before
the path, so that no authority is read into it. -/
def guardDot (u : Url) : List Char :=
  match u.authority, u.path with
  | none, [] :: _ :: _ => ['/', '.']
  | _, _ => []

/-- The part that is asked of a server: the path and the query. -/
def target (u : Url) : List Char :=
  pathChars u.path ++ (u.query.map ('?' :: ·)).getD []

def chars (u : Url) : List Char :=
  u.scheme ++ ':' :: (u.authority.map fun a => '/' :: '/' :: a.chars).getD [] ++
    u.guardDot ++ u.target ++ (u.fragment.map ('#' :: ·)).getD []

def text (u : Url) : String := String.ofList u.chars

/-- Drops user and password. A user that stands for bytes which are no text stays, and so does a
password of that kind without a user. -/
def Authority.withoutCredentials (a : Authority) : Authority :=
  let isText (s : List Char) : Bool := (Text.ofUtf8? (Percent.decode s)).isSome
  if isText a.user && (!a.user.isEmpty || isText a.password) then
    { a with user := [], password := [] }
  else a

/-- The address that a request for this one is sent to: credentials travel apart from it. -/
def withoutCredentials (u : Url) : Url :=
  { u with authority := u.authority.map Authority.withoutCredentials }

def host? (u : Url) : Option Host := u.authority.bind (·.host)

/-! ### Segments -/

/-- A dot, which may be percent-encoded. -/
def dropDot : List Char → Option (List Char)
  | '.' :: rest => some rest
  | '%' :: '2' :: e :: rest => if e = 'e' ∨ e = 'E' then some rest else none
  | _ => none

/-- The segment that stands for the place it is in. -/
def isDot (s : List Char) : Bool := dropDot s == some []

/-- The segment that stands for the place above. -/
def isDoubleDot (s : List Char) : Bool := (dropDot s).bind dropDot == some []

/-- A letter with a colon or a bar, by itself. -/
def isDrive (s : List Char) : Bool :=
  match s with
  | [c, mark] => c.isAlpha && (mark == ':' || mark == '|')
  | _ => false

/-- A drive is never left for the place above it, nor is a segment that goes on behind the drive
with a backslash. -/
def isKept (s : List Char) : Bool :=
  isDrive (s.take 2) && (s.drop 2).head?.all (· == '\\')

/-- The path of the place above. -/
def above (path : List (List Char)) : List (List Char) :=
  if path.getLast?.any isKept then path else path.dropLast

/-- Removes an empty last segment that is not the only one. -/
def popEmpty (path : List (List Char)) : List (List Char) :=
  if 1 < path.length ∧ path.getLast? = some [] then path.dropLast else path

/-- Adds a segment; it takes the place of the empty segment of a bare root. -/
def append (path : List (List Char)) (s : List Char) : List (List Char) :=
  if path = [[]] then [s] else path ++ [s]

/-! ### Dropped characters -/

/-- Tab, line feed and carriage return, which no address keeps. -/
def isDropped (c : Char) : Bool := c == '\t' || c == '\n' || c == '\r'

def kept (s : List Char) : List Char := s.filter (!isDropped ·)

/-- What follows the first character that is kept. -/
def afterKept (s : List Char) : List Char := (s.dropWhile isDropped).drop 1

/-- The segments that a text gives at the root of a file system. A drive is written with a colon;
it is a segment by itself if a dropped character stands behind it. -/
def rooted (keep : Char → Bool) (s : List Char) : List (List Char) :=
  let apart := (afterKept (afterKept s)).head?.any isDropped
  match kept s with
  | [c, mark] => if isDrive [c, mark] then [[c, ':']] else [Percent.encode keep [c, mark]]
  | c :: ':' :: rest =>
    if c.isAlpha && apart then [[c, ':'], Percent.encode keep rest]
    else [Percent.encode keep (c :: ':' :: rest)]
  | text => [Percent.encode keep text]

/-! ### Resources below an address -/

/-- The path with `s` put below it as one segment. The two dot segments add nothing; a text
that is one of them but for dropped characters is followed like a link. -/
def below (ofFile special : Bool) (path : List (List Char)) (s : List Char) :
    List (List Char) :=
  let path := popEmpty path
  if s = ['.'] ∨ s = ['.', '.'] then path
  else
    let segment := Percent.encode (Percent.inSegment special) (kept s)
    if isDoubleDot segment then if path = [[]] then path else above path ++ [[]]
    else if isDot segment then append path []
    else if ofFile && path = [[]] then rooted (Percent.inSegment special) s
    else append path segment

/-- The address of the resource called `s` below this one. -/
def child (u : Url) (s : String) : Url :=
  { u with path := below (u.scheme == file) u.isSpecial u.path s.toList }

end Url

end Attestation
