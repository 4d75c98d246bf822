import Attestation.Json.Basic

/-!
The text of a JSON value, compact and indented.

Only the quote, the backslash and the control characters below U+0020 are escaped. The compact
text has no white space outside strings; the indented one puts every item and member on a line
of its own, two spaces deeper than what holds it.
-/

namespace Attestation.Json

def hexDigit (n : Nat) : Char :=
  if n < 10 then Char.ofNat (48 + n) else Char.ofNat (87 + n)

/-- The escaped form of a character of a string. -/
def escape (c : Char) : List Char :=
  if c = '"' then ['\\', '"']
  else if c = '\\' then ['\\', '\\']
  else if c.toNat < 0x20 then
    if c = '\x08' then ['\\', 'b']
    else if c = '\t' then ['\\', 't']
    else if c = '\n' then ['\\', 'n']
    else if c = '\x0c' then ['\\', 'f']
    else if c = '\r' then ['\\', 'r']
    else ['\\', 'u', '0', '0', hexDigit (c.toNat / 16), hexDigit (c.toNat % 16)]
  else [c]

def quoteChars (s : List Char) : List Char := '"' :: s.flatMap escape ++ ['"']

def quote (s : String) : List Char := quoteChars s.toList

def Number.chars : Number → List Char
  | .natural n => Nat.toDigits 10 n.toNat
  | .negSucc n => '-' :: Nat.toDigits 10 (n.val + 1)
  | .real x _ => x.text

def Number.text (n : Number) : String := String.ofList n.chars

def boolChars (b : Bool) : List Char :=
  if b then ['t', 'r', 'u', 'e'] else ['f', 'a', 'l', 's', 'e']

/-- Puts commas between the pieces. -/
def commaSep : List (List Char) → List Char
  | [] => []
  | [p] => p
  | p :: q :: rest => p ++ ',' :: commaSep (q :: rest)

mutual

/-- The compact text. -/
def chars : Json → List Char
  | .null => ['n', 'u', 'l', 'l']
  | .bool b => boolChars b
  | .number n => n.chars
  | .string s => quote s
  | .array items => '[' :: commaSep (itemChars items) ++ [']']
  | .object members => '{' :: commaSep (memberChars members) ++ ['}']

def itemChars : List Json → List (List Char)
  | [] => []
  | v :: rest => v.chars :: itemChars rest

def memberChars : List (String × Json) → List (List Char)
  | [] => []
  | (k, v) :: rest => (quote k ++ ':' :: v.chars) :: memberChars rest

end

def text (v : Json) : String := String.ofList v.chars

def newline (depth : Nat) : List Char := '\n' :: List.replicate (2 * depth) ' '

/-- Lines of pieces, each `depth` levels deep, with commas between them. -/
def lines (depth : Nat) : List (List Char) → List Char
  | [] => []
  | [p] => newline depth ++ p
  | p :: q :: rest => newline depth ++ p ++ ',' :: lines depth (q :: rest)

mutual

/-- The indented text of a value whose line is `depth` levels deep. -/
def indented (depth : Nat) : Json → List Char
  | .array [] => ['[', ']']
  | .object [] => ['{', '}']
  | .array (v :: rest) =>
    '[' :: lines (depth + 1) (indentedItems (depth + 1) (v :: rest)) ++ newline depth ++ [']']
  | .object (m :: rest) =>
    '{' :: lines (depth + 1) (indentedMembers (depth + 1) (m :: rest)) ++ newline depth ++ ['}']
  | .null => ['n', 'u', 'l', 'l']
  | .bool b => boolChars b
  | .number n => n.chars
  | .string s => quote s

def indentedItems (depth : Nat) : List Json → List (List Char)
  | [] => []
  | v :: rest => indented depth v :: indentedItems depth rest

def indentedMembers (depth : Nat) : List (String × Json) → List (List Char)
  | [] => []
  | (k, v) :: rest => (quote k ++ ':' :: ' ' :: indented depth v) :: indentedMembers depth rest

end

def pretty (v : Json) : String := String.ofList (v.indented 0)

end Attestation.Json
