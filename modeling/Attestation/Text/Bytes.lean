/-!
Text as bytes: ASCII, UTF-8 and hexadecimal.
-/

namespace Attestation.Text

def isAscii (c : Char) : Bool := c.toNat < 128

def utf8Chars (s : List Char) : List UInt8 := s.flatMap String.utf8EncodeChar

def utf8 (s : String) : List UInt8 := utf8Chars s.toList

/-- The text of a sequence of bytes, if it is well-formed UTF-8. -/
def ofUtf8? (bytes : List UInt8) : Option String := String.fromUTF8? ⟨bytes.toArray⟩

/-- The value of a hexadecimal digit in either case. -/
def hexValue? (c : Char) : Option Nat :=
  if '0' ≤ c ∧ c ≤ '9' then some (c.toNat - 48)
  else if 'a' ≤ c ∧ c ≤ 'f' then some (c.toNat - 87)
  else if 'A' ≤ c ∧ c ≤ 'F' then some (c.toNat - 55)
  else none

def nibble (n : Nat) : Char := if n < 10 then Char.ofNat (48 + n) else Char.ofNat (87 + n)

def hexChars (bytes : List UInt8) : List Char :=
  bytes.flatMap fun b => [nibble (b.toNat / 16), nibble (b.toNat % 16)]

def hex (bytes : List UInt8) : String := String.ofList (hexChars bytes)

end Attestation.Text
