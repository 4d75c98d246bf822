import Attestation.Text.Bytes

/-!
Percent-encoding.

A character that may not stand for itself is written byte by byte, each as a percent sign and
two capital hexadecimal digits. Which characters have to be written so depends on the part of
the address they stand in; control characters and everything beyond ASCII always are.
-/

namespace Attestation.Percent

def hexDigit (n : Nat) : Char :=
  if n < 10 then Char.ofNat (48 + n) else Char.ofNat (55 + n)

def byte (b : UInt8) : List Char := ['%', hexDigit (b.toNat / 16), hexDigit (b.toNat % 16)]

/-- Writes out the characters on which `keep` does not hold. -/
def encode (keep : Char → Bool) (s : List Char) : List Char :=
  s.flatMap fun c => if keep c then [c] else (String.utf8EncodeChar c).flatMap byte

/-- The bytes that a text stands for. A percent sign without two digits after it stands for
itself. -/
def decode : List Char → List UInt8
  | [] => []
  | '%' :: a :: b :: rest =>
    match Text.hexValue? a, Text.hexValue? b with
    | some x, some y => .ofNat (16 * x + y) :: decode rest
    | _, _ => 0x25 :: decode (a :: b :: rest)
  | c :: rest => String.utf8EncodeChar c ++ decode rest

/-- Printable ASCII. -/
def isPlain (c : Char) : Bool := 0x20 ≤ c.toNat && c.toNat < 0x7F

/-- The characters that stand for themselves in a fragment. -/
def inFragment (c : Char) : Bool :=
  isPlain c && !(c == ' ' || c == '"' || c == '<' || c == '>' || c == '\x60')

def inPath (c : Char) : Bool :=
  inFragment c && !(c == '#' || c == '?' || c == '{' || c == '}')

def inUserinfo (c : Char) : Bool :=
  inPath c && !(c == '/' || c == ':' || c == ';' || c == '=' || c == '@' || c == '[' ||
    c == '\\' || c == ']' || c == '^' || c == '|')

/-- The characters that stand for themselves in a segment put into a path as a whole; a special
scheme reads a backslash as a slash. -/
def inSegment (special : Bool) (c : Char) : Bool :=
  inPath c && !(c == '/' || c == '%' || (special && c == '\\'))

def inQuery (special : Bool) (c : Char) : Bool :=
  isPlain c && !(c == ' ' || c == '"' || c == '#' || c == '<' || c == '>' ||
    (special && c == '\''))

end Attestation.Percent
