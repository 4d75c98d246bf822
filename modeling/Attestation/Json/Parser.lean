import Attestation.Json.Basic
import Attestation.Numeral.Reading
import Attestation.Text.Bytes

/-!
Reading JSON text.

The grammar alone yields a draft, in which a number out of range, a string that is no text and
a container nested too deep are still marked, not refused: a reader that skips a member never
looks at it. A draft with such a mark in it has no value. Objects of a draft keep their members as
written, repeated keys included; in a value the last one stays.

The grammar is in ASCII but for what stands in strings, so it reads the bytes of a text as it reads
the text itself, with each byte as the character of its number. Only a string has to know which
of the two it is spelled in.
-/

namespace Attestation.Json

/-- What a text spells out, before any of it is needed. -/
inductive Draft where
  | null
  | bool (b : Bool)
  /-- A number, or nothing when it is out of range. -/
  | number (n : Option Number)
  /-- A string, or nothing when it has half of a surrogate pair or bytes that are not UTF-8. -/
  | string (s : Option String)
  | array (items : List Draft)
  | object (members : List (Option String × Draft))
  /-- A container inside as many others as may be nested. -/
  | tooDeep
  deriving Inhabited

/-- One container more than may stand inside another, itself counted. -/
def depthLimit : Nat := 128

/-! ### Numbers -/

/-- The parts of a number as written. -/
structure Literal where
  negative : Bool
  whole : List Char
  places : List Char
  /-- The exponent, if there is one. -/
  exponent : Option Int
  deriving Repr

/-- Takes digits into a significand below `2 ^ 64`, and counts the digits left over. -/
def absorb (n : Nat) : List Char → Nat × Nat
  | [] => (n, 0)
  | c :: rest =>
    let m := 10 * n + (c.toNat - 48)
    if m < UInt64.size then absorb m rest else (n, rest.length + 1)

open Numeral in
/-- Scales by a power of ten in steps that binary64 can hold, rounding each. Nothing when the
result overflows. -/
def scale (x : Double) (e : Int) : Option Double :=
  if e.natAbs ≤ 308 then
    if 0 ≤ e then
      let y := x.mul (Double.ofDecimal false 1 e)
      if y.isInfinite then none else some y
    else some (x.div (Double.ofDecimal false 1 (-e)))
  else if x.isZero then some x
  else if h : 0 ≤ e then none
  else scale (x.div (Double.ofDecimal false 1 308)) (e + 308)
termination_by (-e).toNat
decreasing_by omega

open Numeral in
def Number.ofDouble? (x : Double) : Option Number :=
  if h : x.isFinite = true then some (.real x h) else none

open Numeral in
/-- The number a literal stands for. Without point and exponent it is whole if it fits in 64
bits; minus zero does not. -/
def Literal.value? (l : Literal) : Option Number :=
  let (n, left) := absorb 0 l.whole
  let sign (x : Double) : Double := if l.negative then x.neg else x
  if l.places.isEmpty && l.exponent.isNone && left == 0 then
    if !l.negative then some (.natural (UInt64.ofNat n))
    else if h : 0 < n ∧ n ≤ 0x8000000000000000 then some (.negSucc ⟨n - 1, by omega⟩)
    else Number.ofDouble? (sign (Double.ofNat n))
  else
    let (n, unread) := absorb n l.places
    let e : Int := left - (l.places.length - unread : Nat) + l.exponent.getD 0
    (scale (Double.ofNat n) e).bind fun x => Number.ofDouble? (sign x)

/-- The digits at the start, if there is one. -/
def takeDigits (s : List Char) : Option (List Char × List Char) :=
  let ds := s.takeWhile Char.isDigit
  if ds.isEmpty then none else some (ds, s.dropWhile Char.isDigit)

/-- The whole part: no zero before other digits. -/
def takeWhole (s : List Char) : Option (List Char × List Char) :=
  match takeDigits s with
  | some ('0' :: _ :: _, _) => none
  | other => other

def takePlaces : List Char → Option (List Char × List Char)
  | '.' :: s => takeDigits s
  | s => some ([], s)

def takeExponent : List Char → Option (Option Int × List Char)
  | [] => some (none, [])
  | mark :: s =>
    if mark = 'e' ∨ mark = 'E' then
      let (negative, s) := match s with
        | '-' :: s => (true, s)
        | '+' :: s => (false, s)
        | s => (false, s)
      (takeDigits s).map fun (ds, rest) =>
        let n : Int := Numeral.natOfDigits 0 ds
        (some (if negative then -n else n), rest)
    else some (none, mark :: s)

def takeLiteral (s : List Char) : Option (Literal × List Char) := do
  let (negative, s) := match s with
    | '-' :: s => (true, s)
    | s => (false, s)
  let (whole, s) ← takeWhole s
  let (places, s) ← takePlaces s
  let (exponent, s) ← takeExponent s
  return (⟨negative, whole, places, exponent⟩, s)

/-! ### Strings -/

/-- A character of a string as written: itself, or a UTF-16 unit in hexadecimal. -/
inductive Piece where
  | plain (c : Char)
  | unit (n : Nat)
  deriving Repr

/-- What a single letter after a backslash stands for. -/
def unescape? (c : Char) : Option Char :=
  if c = '"' then some '"'
  else if c = '\\' then some '\\'
  else if c = '/' then some '/'
  else if c = 'b' then some '\x08'
  else if c = 'f' then some '\x0c'
  else if c = 'n' then some '\n'
  else if c = 'r' then some '\r'
  else if c = 't' then some '\t'
  else none

/-- The pieces up to the closing quote, and what follows it. -/
def takePieces : List Char → Option (List Piece × List Char)
  | [] => none
  | '"' :: rest => some ([], rest)
  | '\\' :: 'u' :: a :: b :: c :: d :: rest => do
    let a ← Text.hexValue? a
    let b ← Text.hexValue? b
    let c ← Text.hexValue? c
    let d ← Text.hexValue? d
    let (ps, rest) ← takePieces rest
    return (.unit (((a * 16 + b) * 16 + c) * 16 + d) :: ps, rest)
  | '\\' :: c :: rest => do
    let c ← unescape? c
    let (ps, rest) ← takePieces rest
    return (.plain c :: ps, rest)
  | c :: rest =>
    if c.toNat < 0x20 ∨ c = '\\' then none
    else do
      let (ps, rest) ← takePieces rest
      return (.plain c :: ps, rest)

section Join

variable {α : Type} (plain escaped : Char → List α)

/-- Puts pieces together, with `plain` for a character that stands for itself and `escaped` for
one that is given by its units: two units of a surrogate pair are one character. -/
def joinPieces : List Piece → Option (List α)
  | [] => some []
  | .plain c :: rest => (joinPieces rest).map (plain c ++ ·)
  | .unit h :: .unit l :: rest =>
    if 0xD800 ≤ h ∧ h < 0xDC00 then
      if 0xDC00 ≤ l ∧ l < 0xE000 then
        (joinPieces rest).map
          (escaped (Char.ofNat (0x10000 + (h - 0xD800) * 0x400 + (l - 0xDC00))) ++ ·)
      else none
    else if 0xDC00 ≤ h ∧ h < 0xE000 then none
    else (joinPieces (.unit l :: rest)).map (escaped (Char.ofNat h) ++ ·)
  | .unit h :: rest =>
    if 0xD800 ≤ h ∧ h < 0xE000 then none
    else (joinPieces rest).map (escaped (Char.ofNat h) ++ ·)

end Join

def joinChars : List Piece → Option (List Char) := joinPieces ([·]) ([·])

/-- Puts pieces together whose plain characters are bytes. -/
def joinBytes : List Piece → Option (List UInt8) :=
  joinPieces (fun c => [c.toUInt8]) String.utf8EncodeChar

/-- The text that the pieces of a text stand for. -/
def charsText? (ps : List Piece) : Option String := (joinChars ps).map String.ofList

/-- The text that pieces with bytes in them stand for. -/
def bytesText? (ps : List Piece) : Option String := (joinBytes ps).bind Text.ofUtf8?

section Reading

/-! From here on `join` says what text the pieces of a string stand for, if any. -/

variable (join : List Piece → Option String)

def takeString (s : List Char) : Option (Option String × List Char) :=
  (takePieces s).map fun (ps, rest) => (join ps, rest)

/-! ### Values -/

/-- Space, tab, line feed and carriage return. -/
def isGap (c : Char) : Bool := c == ' ' || c == '\t' || c == '\n' || c == '\r'

def skipGap (s : List Char) : List Char := s.dropWhile isGap

/-- Drops `word` from the start of `s`. -/
def dropWord (word s : List Char) : Option (List Char) :=
  if word.isPrefixOf s then some (s.drop word.length) else none

/-- A container with `depth` others around it, unless that is too many. -/
def nested (depth : Nat) (d : Draft) : Draft := if depthLimit ≤ depth + 1 then .tooDeep else d

mutual

/-- Reads one value that stands inside `depth` containers; white space may come first. -/
def takeValue : Nat → Nat → List Char → Option (Draft × List Char)
  | 0, _, _ => none
  | fuel + 1, depth, s =>
    match skipGap s with
    | [] => none
    | '"' :: s => (takeString join s).map fun (t, rest) => (.string t, rest)
    | '[' :: s =>
      match skipGap s with
      | ']' :: rest => some (nested depth (.array []), rest)
      | s => (takeItems fuel (depth + 1) s).map fun (vs, rest) => (nested depth (.array vs), rest)
    | '{' :: s =>
      match skipGap s with
      | '}' :: rest => some (nested depth (.object []), rest)
      | s =>
        (takeMembers fuel (depth + 1) s).map fun (ms, rest) => (nested depth (.object ms), rest)
    | 'n' :: s => (dropWord ['u', 'l', 'l'] s).map fun rest => (.null, rest)
    | 't' :: s => (dropWord ['r', 'u', 'e'] s).map fun rest => (.bool true, rest)
    | 'f' :: s => (dropWord ['a', 'l', 's', 'e'] s).map fun rest => (.bool false, rest)
    | s => (takeLiteral s).map fun (l, rest) => (.number l.value?, rest)

/-- Reads the items of an array up to its closing bracket; there is at least one. -/
def takeItems : Nat → Nat → List Char → Option (List Draft × List Char)
  | 0, _, _ => none
  | fuel + 1, depth, s => do
    let (v, s) ← takeValue fuel depth s
    match skipGap s with
    | ',' :: s =>
      let (vs, rest) ← takeItems fuel depth s
      return (v :: vs, rest)
    | ']' :: rest => return ([v], rest)
    | _ => none

/-- Reads the members of an object up to its closing brace; there is at least one. -/
def takeMembers : Nat → Nat → List Char → Option (List (Option String × Draft) × List Char)
  | 0, _, _ => none
  | fuel + 1, depth, s =>
    match skipGap s with
    | '"' :: s => do
      let (k, s) ← takeString join s
      match skipGap s with
      | ':' :: s =>
        let (v, s) ← takeValue fuel depth s
        match skipGap s with
        | ',' :: s =>
          let (ms, rest) ← takeMembers fuel depth s
          return ((k, v) :: ms, rest)
        | '}' :: rest => return ([(k, v)], rest)
        | _ => none
      | _ => none
    | _ => none

end

/-- The draft of all that is given. -/
def Draft.parseWith (s : List Char) : Option Draft := do
  let (d, rest) ← takeValue join (2 * s.length + 1) 0 s
  if (skipGap rest).isEmpty then some d else none

end Reading

/-- The draft of a whole text. -/
def Draft.parse (s : List Char) : Option Draft := Draft.parseWith charsText? s

/-- The draft of bytes. They need not be UTF-8 where a string is skipped. -/
def Draft.parseBytes (bytes : List UInt8) : Option Draft :=
  Draft.parseWith bytesText? (bytes.map Char.ofUInt8)

mutual

/-- The value of a draft without marks. -/
def Draft.value? : Draft → Option Json
  | .null => some .null
  | .bool b => some (.bool b)
  | .number n => n.map .number
  | .string s => s.map .string
  | .array items => (Draft.itemValues? items).map .array
  | .object members => (Draft.memberValues? members).map fun ms => .object (Keyed.ofList ms)
  | .tooDeep => none

def Draft.itemValues? : List Draft → Option (List Json)
  | [] => some []
  | d :: rest => do
    let v ← d.value?
    let vs ← Draft.itemValues? rest
    return v :: vs

def Draft.memberValues? : List (Option String × Draft) → Option (List (String × Json))
  | [] => some []
  | (k, d) :: rest => do
    let k ← k
    let v ← d.value?
    let ms ← Draft.memberValues? rest
    return (k, v) :: ms

end

mutual

/-- The draft that spells out a value. -/
def draft : Json → Draft
  | .null => .null
  | .bool b => .bool b
  | .number n => .number (some n)
  | .string s => .string (some s)
  | .array items => .array (draftItems items)
  | .object members => .object (draftMembers members)

def draftItems : List Json → List Draft
  | [] => []
  | v :: rest => v.draft :: draftItems rest

def draftMembers : List (String × Json) → List (Option String × Draft)
  | [] => []
  | (k, v) :: rest => (some k, v.draft) :: draftMembers rest

end

/-- The value of a whole text. -/
def parse (s : String) : Option Json := (Draft.parse s.toList).bind Draft.value?

end Attestation.Json
