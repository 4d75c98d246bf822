import Attestation.Network.Address
import Attestation.Url.Domain
import Attestation.Url.Percent

/-!
The host of an address.

Under a special scheme a host is a domain name or an address of the internet protocol. A
domain is percent-decoded and brought into its ASCII form; if its last label is a number it has
to be an address of version 4, whose parts may be few, octal or hexadecimal. Under other schemes
a host is any text without delimiters.
-/

namespace Attestation.Url

inductive Host where
  | domain (name : List Char)
  | v4 (a : BitVec 32)
  | v6 (a : BitVec 128)
  deriving DecidableEq, Repr

namespace Host

/-! ### Addresses -/

/-- A part of an address of version 4: decimal, octal after a zero, or hexadecimal. -/
def number? (s : List Char) : Option Nat :=
  let (radix, digits) := match s with
    | '0' :: 'x' :: ds => (16, ds)
    | '0' :: 'X' :: ds => (16, ds)
    | '0' :: d :: ds => (8, d :: ds)
    | ds => (10, ds)
  if s.isEmpty then none
  else if digits.all fun c => (Text.hexValue? c).any (· < radix) then
    some (digits.foldl (fun n c => radix * n + (Text.hexValue? c).getD 0) 0)
  else none

/-- The labels without an empty last one. -/
def dropRoot (labels : List (List Char)) : List (List Char) :=
  if 1 < labels.length ∧ labels.getLast? = some [] then labels.dropLast else labels

/-- The last label is made of digits or is a number. -/
def endsInNumber (name : List Char) : Bool :=
  match (dropRoot (Text.splitChars (· == '.') name)).getLast? with
  | some last => (!last.isEmpty && last.all Char.isDigit) || (number? last).isSome
  | none => false

/-- The value of the parts of an address of version 4: the last part fills all the places that
are left. -/
def ofParts : List Nat → Nat → Option Nat
  | [n], places + 1 => if n < Nat.pow 256 (places + 1) then some n else none
  | n :: rest, places + 1 =>
    if n < 256 then (ofParts rest places).map (n * Nat.pow 256 places + ·) else none
  | _, _ => none

def v4? (name : List Char) : Option (BitVec 32) := do
  let parts ← (dropRoot (Text.splitChars (· == '.') name)).mapM number?
  return BitVec.ofNat 32 (← ofParts parts 4)

/-- The text between brackets. -/
def bracketed? : List Char → Option (List Char)
  | '[' :: rest => if rest.getLast? = some ']' then some rest.dropLast else none
  | _ => none

/-! ### Reading and writing -/

/-- The host that a text stands for under a special scheme. -/
def parseSpecial (s : List Char) : Option Host :=
  if s.head? = some '[' then do
    return .v6 (← Network.v6? (← bracketed? s))
  else do
    let name ← Domain.ascii? (← Text.ofUtf8? (Percent.decode s)).toList
    if name.isEmpty then none
    else if endsInNumber name then return .v4 (← v4? name)
    else return .domain name

def isDelimiter (c : Char) : Bool :=
  ['\x00', ' ', '#', '/', ':', '<', '>', '?', '@', '[', '\\', ']', '^', '|'].contains c

/-- The host that a text stands for under any other scheme. -/
def parseOpaque (s : List Char) : Option Host :=
  if s.head? = some '[' then do
    return .v6 (← Network.v6? (← bracketed? s))
  else if s.any isDelimiter then none
  else some (.domain (Percent.encode Percent.isPlain s))

/-- The groups of an address of version 6. -/
def groups (a : BitVec 128) : List Nat :=
  (List.range 8).map fun i => a.toNat / Nat.pow 65536 (7 - i) % 65536

/-- The number of zeros at the start. -/
def zeroRun (gs : List Nat) : Nat := (gs.takeWhile (· == 0)).length

/-- Where the first of the longest runs of zeros starts, and its length. -/
def longestZeros : List Nat → Nat × Nat
  | [] => (0, 0)
  | g :: rest =>
    let here := zeroRun (g :: rest)
    let (start, length) := longestZeros rest
    if length ≤ here then (0, here) else (start + 1, length)

def hexGroups (gs : List Nat) : List Char :=
  match gs.map (Nat.toDigits 16) with
  | [] => []
  | g :: rest => g ++ rest.flatMap (':' :: ·)

/-- The first of the longest runs of at least two zero groups is left out. -/
def v6Chars (a : BitVec 128) : List Char :=
  let gs := groups a
  let (start, length) := longestZeros gs
  if length < 2 then hexGroups gs
  else hexGroups (gs.take start) ++ ':' :: ':' :: hexGroups (gs.drop (start + length))

def v4Chars (a : BitVec 32) : List Char :=
  Domain.joinDots ((List.range 4).map fun i => Nat.toDigits 10 (a.toNat / Nat.pow 256 (3 - i) % 256))

def chars : Host → List Char
  | .domain name => name
  | .v4 a => v4Chars a
  | .v6 a => '[' :: v6Chars a ++ [']']

end Host

end Attestation.Url
