/-!
A place in a YAML text.

A cursor holds what is left of the text and the place it starts at: the number of bytes before
it, its line and its column, which counts characters. Columns decide how lines belong together.
There are five line breaks, and a carriage return with a line feed is a single one.
-/

namespace Attestation.Yaml

def isBlank (c : Char) : Bool := c == ' ' || c == '\t'

def isBreak (c : Char) : Bool :=
  c == '\r' || c == '\n' || c == '\u0085' || c == '\u2028' || c == '\u2029'

/-- The characters that a text may hold. -/
def isAllowed (c : Char) : Bool :=
  let n := c.toNat
  n == 9 || n == 0xA || n == 0xD || (0x20 ≤ n && n ≤ 0x7E) || n == 0x85 ||
    (0xA0 ≤ n && n ≤ 0xFFFD) || 0x10000 ≤ n

structure Cursor where
  rest : List Char
  /-- The number of bytes before the place, as UTF-8. -/
  index : Nat
  line : Nat
  column : Nat
  deriving Repr

namespace Cursor

def start (text : List Char) : Cursor := ⟨text, 0, 0, 0⟩

/-- The number of bytes that characters take. -/
def byteCount (s : List Char) : Nat := s.foldl (fun n c => n + c.utf8Size) 0

def atEnd (c : Cursor) : Bool := c.rest.isEmpty

def peek? (c : Cursor) : Option Char := c.rest.head?

def peekAt? (n : Nat) (c : Cursor) : Option Char := c.rest[n]?

/-- The next character satisfies `p`; no character does not. -/
def sees (p : Char → Bool) (c : Cursor) : Bool := c.peek?.any p

def seesChar (a : Char) (c : Cursor) : Bool := c.peek? == some a

/-- A blank, a line break or the end is `n` characters ahead. -/
def blankOrEndAt (n : Nat) (c : Cursor) : Bool :=
  (c.peekAt? n).all fun a => isBlank a || isBreak a

/-- A line break or the end comes next. -/
def atLineEnd (c : Cursor) : Bool := c.peek?.all isBreak

/-- Goes past `n` characters of the line. -/
def skip (n : Nat) (c : Cursor) : Cursor :=
  ⟨c.rest.drop n, c.index + byteCount (c.rest.take n), c.line, c.column + n⟩

/-- Goes past the characters of the line that satisfy `p`, and gives them. -/
def takeWhile (p : Char → Bool) (c : Cursor) : List Char × Cursor :=
  let run := c.rest.takeWhile p
  (run, c.skip run.length)

def skipWhile (p : Char → Bool) (c : Cursor) : Cursor := (c.takeWhile p).2

/-- Goes past a line break, and gives what it is read as. At the end there is none. -/
def takeBreak (c : Cursor) : List Char × Cursor :=
  match c.rest with
  | '\r' :: '\n' :: rest => (['\n'], ⟨rest, c.index + 2, c.line + 1, 0⟩)
  | a :: rest =>
    (if a = '\u2028' ∨ a = '\u2029' then [a] else ['\n'],
      ⟨rest, c.index + a.utf8Size, c.line + 1, 0⟩)
  | [] => ([], c)

/-- Goes past a comment and the blanks before it, up to the end of the line. -/
def skipComment (c : Cursor) : Cursor :=
  let c := c.skipWhile isBlank
  if c.seesChar '#' then c.skipWhile (!isBreak ·) else c

/-- Three hyphens or three stops at the start of a line, by themselves. -/
def atMarker (a : Char) (c : Cursor) : Bool :=
  c.column == 0 && c.rest.take 3 == [a, a, a] && c.blankOrEndAt 3

def atDocumentMarker (c : Cursor) : Bool := c.atMarker '-' || c.atMarker '.'

end Cursor

end Attestation.Yaml
