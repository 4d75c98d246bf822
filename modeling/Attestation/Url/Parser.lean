import Attestation.Text.Blank
import Attestation.Url.Basic

/-!
Reading addresses.

Control characters and spaces around the text are dropped, and so are tabs and line ends
anywhere. A special scheme may be followed by any number of slashes; dot segments of the path
are resolved. An address whose path is no list of segments is told apart from a text that is
no address.
-/

namespace Attestation.Url

/-- Why a text is no address that a path can be put below. -/
inductive Fault where
  | malformed
  | noPath
  deriving DecidableEq, Repr

/-- The text without the control characters and spaces around it. -/
def strip (s : List Char) : List Char := Text.stripWhile (fun c => c.toNat ≤ 0x20) s

def isSchemeChar (c : Char) : Bool := c.isAlphanum || c == '+' || c == '-' || c == '.'

/-- The scheme in lower case, and what follows its colon. -/
def takeScheme (s : List Char) : Option (List Char × List Char) :=
  let scheme := s.takeWhile isSchemeChar
  match scheme, s.dropWhile isSchemeChar with
  | c :: _, ':' :: rest => if c.isAlpha then some (scheme.map Char.toLower, rest) else none
  | _, _ => none

def isSlash (special : Bool) (c : Char) : Bool := c == '/' || (special && c == '\\')

/-- The characters that end an authority. -/
def endsAuthority (special : Bool) (c : Char) : Bool :=
  isSlash special c || c == '?' || c == '#'

/-- The text before the last at sign of the authority, if there is one, and the text after. -/
def splitUser (special : Bool) (s : List Char) : Option (List Char × List Char) :=
  let head := s.takeWhile (!endsAuthority special ·)
  if head.contains '@' then
    let host := (head.reverse.takeWhile (· != '@')).reverse
    some (head.take (head.length - host.length - 1),
      host ++ s.dropWhile (!endsAuthority special ·))
  else none

/-- The user and the password, encoded. -/
def readUser (s : List Char) : List Char × List Char :=
  let encode := Percent.encode Percent.inUserinfo
  (encode (s.takeWhile (· != ':')), encode ((s.dropWhile (· != ':')).drop 1))

/-- The text of the host: up to a colon outside brackets or the end of the authority. -/
def takeHost (special inside : Bool) : List Char → List Char × List Char
  | [] => ([], [])
  | c :: rest =>
    if endsAuthority special c || (c == ':' && !inside) then ([], c :: rest)
    else
      let inside := if c = '[' then true else if c = ']' then false else inside
      let (host, rest) := takeHost special inside rest
      (c :: host, rest)

/-- The port after a host, which is nothing if it is implied or has no digits. -/
def takePort (scheme : List Char) : List Char → Option (Option Nat × List Char)
  | ':' :: s =>
    let digits := s.takeWhile Char.isDigit
    let rest := s.dropWhile Char.isDigit
    let n := digits.foldl (fun n c => 10 * n + (c.toNat - 48)) 0
    if 65535 < n then none
    else if rest.head?.all (endsAuthority true) then
      some (if digits.isEmpty || defaultPort? scheme == some n then none else some n, rest)
    else none
  | s => some (none, s)

/-- The segments of a path with its dot segments resolved, below the segments read before. -/
def resolve (ofFile : Bool) (done : List (List Char)) : List (List Char) → List (List Char)
  | [] => done
  | s :: rest =>
    let segment := Percent.encode Percent.inPath (kept s)
    let ending := if rest.isEmpty then [[]] else []
    if isDoubleDot segment then resolve ofFile (above done ++ ending) rest
    else if isDot segment then resolve ofFile (done ++ ending) rest
    else if ofFile && done.isEmpty then resolve ofFile (rooted Percent.inPath s) rest
    else resolve ofFile (done ++ [segment]) rest

/-- The text of a path and what is behind it: a query or a fragment. -/
def splitPath (s : List Char) : List Char × List Char :=
  let inside (c : Char) : Bool := c != '?' && c != '#'
  (s.takeWhile inside, s.dropWhile inside)

/-- The segments of a path, less the slash at its start. -/
def readPath (special : Bool) : List Char → List (List Char)
  | [] => if special then [[]] else []
  | c :: s =>
    resolve false [] (Text.splitChars (isSlash special) (if isSlash special c then s else c :: s))

/-- The query and the fragment. -/
def readTail (special : Bool) : List Char → Option (List Char) × Option (List Char)
  | '?' :: s =>
    let query := Percent.encode (Percent.inQuery special) (s.takeWhile (· != '#'))
    (some query, (readTail special (s.dropWhile (· != '#'))).2)
  | '#' :: s => (none, some (Percent.encode Percent.inFragment s))
  | _ => (none, none)
termination_by s => s.length
decreasing_by
  have : ∀ l : List Char, (l.dropWhile (· != '#')).length ≤ l.length := fun l => by
    induction l with
    | nil => simp
    | cons a l ih =>
      rw [List.dropWhile_cons]
      split
      · exact Nat.le_succ_of_le ih
      · exact Nat.le_refl _
  have := this s
  simp only [List.length_cons]
  omega

def finish (scheme : List Char) (authority : Option Authority) (s : List Char) : Url :=
  let special := isSpecialScheme scheme
  let (path, rest) := splitPath s
  let (query, fragment) := readTail special rest
  ⟨scheme, authority, readPath special path, query, fragment⟩

/-- The address from its authority on. -/
def readAuthority (scheme s : List Char) : Option Url := do
  let special := isSpecialScheme scheme
  let (credentials, s) := match splitUser special s with
    | some (user, rest) => (some user, rest)
    | none => (none, s)
  let (user, password) := readUser (credentials.getD [])
  if credentials = some [] ∧ s.head?.any (endsAuthority special) then none
  let (name, rest) := takeHost special false s
  let host ← if special then Host.parseSpecial name else Host.parseOpaque name
  let host := if host = .domain [] then none else some host
  if host.isNone ∧ (rest.head? = some ':' ∨ !user.isEmpty ∨ !password.isEmpty) then none
  let (port, rest) ← takePort scheme rest
  return finish scheme (some ⟨user, password, host, port⟩) rest

/-- The address of a file on a host, from its path on. A path that starts with a drive needs no
host, and empty segments at its start go. -/
def finishFile (host : Option Host) (s : List Char) : Url :=
  let (text, rest) := splitPath s
  let path := resolve true [] (Text.splitChars (isSlash true) text)
  let host := if path.head?.any isDrive then none else host
  let path := match path.dropWhile List.isEmpty with
    | [] => [[]]
    | path => path
  let (query, fragment) := readTail true (kept rest)
  ⟨file, some ⟨[], [], host, none⟩, path, query, fragment⟩

/-- The text without the slash at its start. -/
def dropSlash (s : List Char) : List Char :=
  if (kept s).head?.any (isSlash true) then afterKept s else s

/-- The address of a file from the end of its scheme on, dropped characters included. Where two
slashes come first and no host behind them, the slash after those starts an empty segment. -/
def readFile (s : List Char) : Option Url :=
  match kept s with
  | a :: b :: _ =>
    if isSlash true a && isSlash true b then do
      let rest := afterKept (afterKept s)
      let name := kept (rest.takeWhile (!endsAuthority true ·))
      if name.isEmpty || isDrive name then return finishFile none rest
      let host ← Host.parseSpecial name
      let rest := rest.dropWhile (!endsAuthority true ·)
      if host.chars == "localhost".toList then return finishFile none rest
      return finishFile (some host) (dropSlash rest)
    else some (finishFile none (dropSlash s))
  | _ => some (finishFile none (dropSlash s))

/-- Reads an address. -/
def parse (s : List Char) : Except Fault Url :=
  let s := strip s
  match takeScheme (kept s) with
  | none => .error .malformed
  | some (scheme, rest) =>
    if scheme = file then
      (readFile ((s.dropWhile (· != ':')).drop 1)).elim (.error .malformed) .ok
    else if isSpecialScheme scheme then
      (readAuthority scheme (rest.dropWhile (isSlash true))).elim (.error .malformed) .ok
    else
      match rest with
      | '/' :: '/' :: s => (readAuthority scheme s).elim (.error .malformed) .ok
      | '/' :: s => .ok (finish scheme none ('/' :: s))
      | _ => .error .noPath

end Attestation.Url
