import Attestation.Text.Bytes
import Attestation.Yaml.Scalar

/-!
The tokens of a YAML text.

Indentation becomes tokens of its own: a block starts where a column goes further in than the
block around it, and ends where a column goes back out. What stands before a colon turns out
to be a key only there, so its token is put in afterwards; until then the place is a candidate,
which lasts for one line and 1024 bytes. A candidate at the column of its block has to become a
key.

A tag is a string of bytes, since it may be percent-encoded; it ends at its first zero byte.
-/

namespace Attestation.Yaml

inductive Token where
  | version (major minor : Nat)
  | tagHandle (handle : List Char) (start : List UInt8)
  | documentStart
  | documentEnd
  | blockSequenceStart
  | blockMappingStart
  | blockEnd
  | flowSequenceStart
  | flowSequenceEnd
  | flowMappingStart
  | flowMappingEnd
  | blockEntry
  | flowEntry
  | key
  | value
  | reference (name : List Char)
  | anchor (name : List Char)
  | tag (handle : List Char) (suffix : List UInt8)
  | scalar (style : Style) (text : List Char)
  deriving DecidableEq, Repr

namespace Token

/-! ### Names and tags -/

def isNameChar (c : Char) : Bool := c.isAlphanum || c == '_' || c == '-'

/-- Reads the name of an anchor. -/
def takeName (c : Cursor) : Option (List Char × Cursor) :=
  let (name, c) := c.takeWhile isNameChar
  let ended := c.blankOrEndAt 0 ||
    c.sees fun a => ['?', ':', ',', ']', '}', '%', '@', '\x60'].contains a
  if name.isEmpty || !ended then none else some (name, c)

def isTagChar (verbatim : Bool) (c : Char) : Bool :=
  isNameChar c ||
    [';', '/', '?', ':', '@', '&', '=', '+', '$', '.', '%', '!', '~', '*', '\'', '(', ')'].contains
      c || (verbatim && (c == ',' || c == '[' || c == ']'))

/-- The number of bytes in the sequence that a byte starts, going by its high bits alone. -/
def sequenceLength? (b : UInt8) : Option Nat :=
  if b &&& 0x80 = 0 then some 1
  else if b &&& 0xE0 = 0xC0 then some 2
  else if b &&& 0xF0 = 0xE0 then some 3
  else if b &&& 0xF8 = 0xF0 then some 4
  else none

/-- The bytes of a tag after the start of an encoded sequence that still lacks `missing` bytes.
Each percent sign is followed by two digits, and a sequence is encoded to its end; which
character it would stand for does not matter. -/
def tagBytes (missing : Nat) : List Char → Option (List UInt8)
  | [] => if missing = 0 then some [] else none
  | '%' :: a :: b :: rest => do
    let x ← Text.hexValue? a
    let y ← Text.hexValue? b
    let byte := UInt8.ofNat (16 * x + y)
    let missing ←
      if missing = 0 then (sequenceLength? byte).map (· - 1)
      else if byte &&& 0xC0 = 0x80 then some (missing - 1)
      else none
    return byte :: (← tagBytes missing rest)
  | '%' :: _ => none
  | a :: rest =>
    if missing = 0 then (tagBytes 0 rest).map (String.utf8EncodeChar a ++ ·) else none

/-- Reads the characters of a tag, of which there has to be one unless it `mayLack` them. -/
def takeTagChars (verbatim mayLack : Bool) (c : Cursor) : Option (List UInt8 × Cursor) := do
  let (run, c) := c.takeWhile (isTagChar verbatim)
  if run.isEmpty && !mayLack then none
  return ((← tagBytes 0 run).takeWhile (· != 0), c)

/-- Reads a handle: an exclamation mark, a name, and another mark if there is one. -/
def takeHandle (c : Cursor) : List Char × Cursor :=
  let (name, c) := (c.skip 1).takeWhile isNameChar
  if c.seesChar '!' then ('!' :: name ++ ['!'], c.skip 1) else ('!' :: name, c)

/-- The tag that is no more than an exclamation mark. -/
def bareTag : List UInt8 := [0x21]

/-- Reads a tag: a full one in angle brackets, a handle with a suffix, or a suffix alone. -/
def takeTag (inFlow : Bool) (c : Cursor) : Option (Token × Cursor) := do
  let (token, c) ←
    if c.peekAt? 1 == some '<' then do
      let (suffix, c) ← takeTagChars true false (c.skip 2)
      if !c.seesChar '>' then none
      some (Token.tag [] suffix, c.skip 1)
    else do
      let (handle, c) := takeHandle c
      if 1 < handle.length ∧ handle.getLast? = some '!' then
        let (suffix, c) ← takeTagChars false false c
        some (Token.tag handle suffix, c)
      else
        let (rest, c) ← takeTagChars false true c
        let suffix := Text.utf8Chars (handle.drop 1) ++ rest
        some (if suffix.isEmpty then Token.tag [] bareTag else Token.tag ['!'] suffix, c)
  if c.blankOrEndAt 0 || (inFlow && c.seesChar ',') then some (token, c) else none

/-! ### Directives -/

/-- Reads a number of at most nine digits. -/
def takeSmall (c : Cursor) : Option (Nat × Cursor) :=
  let (ds, c) := c.takeWhile Char.isDigit
  if ds.isEmpty || 9 < ds.length then none
  else some (ds.foldl (fun n d => 10 * n + (d.toNat - 48)) 0, c)

def takeVersion (c : Cursor) : Option (Token × Cursor) := do
  let (major, c) ← takeSmall (c.skipWhile isBlank)
  if !c.seesChar '.' then none
  let (minor, c) ← takeSmall (c.skip 1)
  return (.version major minor, c)

def takeTagHandle (c : Cursor) : Option (Token × Cursor) := do
  let c := c.skipWhile isBlank
  if !c.seesChar '!' then none
  let (handle, c) := takeHandle c
  if handle ≠ ['!'] ∧ (handle.length = 1 ∨ handle.getLast? ≠ some '!') then none
  if !c.sees isBlank then none
  let (start, c) ← takeTagChars true false (c.skipWhile isBlank)
  if !c.blankOrEndAt 0 then none
  return (.tagHandle handle start, c)

/-- Reads a line that starts with a percent sign. -/
def takeDirective (c : Cursor) : Option (Token × Cursor) := do
  let (name, c) := (c.skip 1).takeWhile isNameChar
  if !c.blankOrEndAt 0 then none
  let (token, c) ← match String.ofList name with
    | "YAML" => takeVersion c
    | "TAG" => takeTagHandle c
    | _ => none
  let c := c.skipComment
  if c.atLineEnd then some (token, c.takeBreak.2) else none

/-! ### Scanning -/

/-- A place that may turn out to be a key. -/
structure Candidate where
  /-- It has to turn out to be one. -/
  required : Bool
  /-- The number of tokens before it. -/
  number : Nat
  place : Cursor

structure Scan where
  cursor : Cursor
  /-- The column of the innermost block; -1 outside all. -/
  indent : Int := -1
  /-- The columns of the blocks around it. -/
  outer : List Int := []
  /-- The candidate of each open flow collection, innermost first, and last that of the text. -/
  candidates : List (Option Candidate) := [none]
  /-- A candidate may start here. -/
  keyAllowed : Bool := true
  /-- The tokens so far, the last one first. -/
  tokens : List Token := []

namespace Scan

def inFlow (s : Scan) : Bool := 1 < s.candidates.length

def emit (t : Token) (s : Scan) : Scan := { s with tokens := t :: s.tokens }

/-- Emits a token and goes past its `n` characters. -/
def emitAndSkip (t : Token) (n : Nat) (s : Scan) : Scan :=
  { s with tokens := t :: s.tokens, cursor := s.cursor.skip n }

/-- Puts a token behind the first `number` ones. -/
def emitAt (number : Nat) (t : Token) (s : Scan) : Scan :=
  let late := s.tokens.length - number
  { s with tokens := s.tokens.take late ++ t :: s.tokens.drop late }

/-- Ends the blocks that are further in than `column`. -/
def unroll (column : Int) : Nat → Scan → Scan
  | 0, s => s
  | fuel + 1, s =>
    if s.indent ≤ column then s
    else unroll column fuel
      { s with tokens := .blockEnd :: s.tokens, indent := s.outer.headD (-1), outer := s.outer.drop 1 }

/-- Outside flow collections, ends the blocks that are further in than `column`. -/
def leaveBlocks (column : Int) (s : Scan) : Scan :=
  if s.inFlow then s else s.unroll column (s.outer.length + 1)

/-- Starts a block at `column` if that is further in, with its token behind the first `number`
ones. -/
def enterBlock (column number : Nat) (t : Token) (s : Scan) : Scan :=
  if s.inFlow || (column : Int) ≤ s.indent then s
  else { s.emitAt number t with indent := column, outer := s.indent :: s.outer }

/-- Gives up the candidate of the innermost collection; a required one may not be given up. -/
def dropCandidate (s : Scan) : Option Scan :=
  match s.candidates with
  | some k :: rest => if k.required then none else some { s with candidates := none :: rest }
  | _ => some s

/-- Makes the place ahead the candidate, if one is allowed here. -/
def saveCandidate (s : Scan) : Option Scan :=
  if s.keyAllowed then do
    let required := !s.inFlow && s.indent == (s.cursor.column : Int)
    let s ← s.dropCandidate
    return { s with
      candidates := some ⟨required, s.tokens.length, s.cursor⟩ :: s.candidates.drop 1 }
  else some s

/-- A candidate does not last beyond its line and 1024 bytes. -/
def isStale (at_ : Cursor) (k : Candidate) : Bool :=
  k.place.line < at_.line || k.place.index + 1024 < at_.index

def dropStale (s : Scan) : Option Scan := do
  let keep : Option Candidate → Option (Option Candidate)
    | some k =>
      if isStale s.cursor k then if k.required then none else some none else some (some k)
    | none => some none
  return { s with candidates := ← s.candidates.mapM keep }

/-- Goes to the next token, past white space, comments and line breaks. A byte order mark may
start a line and takes up a column. -/
def toNext : Nat → Scan → Scan
  | 0, s => s
  | fuel + 1, s =>
    let c := s.cursor
    let c := if c.column = 0 ∧ c.peek? = some '\uFEFF' then c.skip 1 else c
    let tabs := s.inFlow || !s.keyAllowed
    let c := c.skipWhile fun a => a == ' ' || (tabs && a == '\t')
    let c := if c.seesChar '#' then c.skipWhile (!isBreak ·) else c
    if c.sees isBreak then
      toNext fuel { s with cursor := c.takeBreak.2, keyAllowed := s.keyAllowed || !s.inFlow }
    else { s with cursor := c }

def setKeyAllowed (b : Bool) (s : Scan) : Scan := { s with keyAllowed := b }

/-- Emits the token of a scalar, an anchor or a tag that was read up to `c`. -/
def emitRead (t : Token) (c : Cursor) (s : Scan) : Scan := { s.emit t with cursor := c }

def fetchMarker (t : Token) (s : Scan) : Option Scan := do
  let s ← (s.leaveBlocks (-1)).dropCandidate
  return (s.setKeyAllowed false).emitAndSkip t 3

def fetchDirective (s : Scan) : Option Scan := do
  let s ← (s.leaveBlocks (-1)).dropCandidate
  let (t, c) ← takeDirective s.cursor
  return (s.setKeyAllowed false).emitRead t c

def fetchFlowStart (t : Token) (s : Scan) : Option Scan := do
  let s ← s.saveCandidate
  return { (s.setKeyAllowed true).emitAndSkip t 1 with candidates := none :: s.candidates }

def fetchFlowEnd (t : Token) (s : Scan) : Option Scan := do
  let s ← s.dropCandidate
  let candidates := if s.inFlow then s.candidates.drop 1 else s.candidates
  return { (s.setKeyAllowed false).emitAndSkip t 1 with candidates := candidates }

def fetchFlowEntry (s : Scan) : Option Scan := do
  let s ← s.dropCandidate
  return (s.setKeyAllowed true).emitAndSkip .flowEntry 1

/-- Starts the block of an indicator that stands by itself, where one is allowed. -/
def enterAtIndicator (t : Token) (s : Scan) : Option Scan :=
  if s.inFlow then some s
  else if !s.keyAllowed then none
  else some (s.enterBlock s.cursor.column s.tokens.length t)

def fetchBlockEntry (s : Scan) : Option Scan := do
  let s ← (← s.enterAtIndicator .blockSequenceStart).dropCandidate
  return (s.setKeyAllowed true).emitAndSkip .blockEntry 1

def fetchKey (s : Scan) : Option Scan := do
  let s ← (← s.enterAtIndicator .blockMappingStart).dropCandidate
  return (s.setKeyAllowed (!s.inFlow)).emitAndSkip .key 1

def fetchValue (s : Scan) : Option Scan :=
  match s.candidates with
  | some k :: rest =>
    let s := { s with candidates := none :: rest }
    let s := (s.emitAt k.number .key).enterBlock k.place.column k.number .blockMappingStart
    some ((s.setKeyAllowed false).emitAndSkip .value 1)
  | _ => do
    let s ← s.enterAtIndicator .blockMappingStart
    return (s.setKeyAllowed (!s.inFlow)).emitAndSkip .value 1

def fetchName (t : List Char → Token) (s : Scan) : Option Scan := do
  let s ← s.saveCandidate
  let (name, c) ← takeName (s.cursor.skip 1)
  return (s.setKeyAllowed false).emitRead (t name) c

def fetchTag (s : Scan) : Option Scan := do
  let s ← s.saveCandidate
  let (t, c) ← takeTag s.inFlow s.cursor
  return (s.setKeyAllowed false).emitRead t c

def fetchBlock (literal : Bool) (s : Scan) : Option Scan := do
  let s ← s.dropCandidate
  let (text, c) ← takeBlock literal s.indent s.cursor
  let style := if literal then Style.literal else .folded
  return (s.setKeyAllowed true).emitRead (.scalar style text) c

def fetchQuoted (single : Bool) (s : Scan) : Option Scan := do
  let s ← s.saveCandidate
  let (text, c) ← takeQuoted single s.cursor
  let style := if single then Style.singleQuoted else .doubleQuoted
  return (s.setKeyAllowed false).emitRead (.scalar style text) c

def fetchPlain (s : Scan) : Option Scan := do
  let s ← s.saveCandidate
  let (text, broken, c) ← takePlain s.inFlow (s.indent + 1).toNat s.cursor
  return (s.setKeyAllowed broken).emitRead (.scalar .plain text) c

/-- The characters that start no plain text. -/
def isIndicator (c : Char) : Bool :=
  ['-', '?', ':', ',', '[', ']', '{', '}', '#', '&', '*', '!', '|', '>', '\'', '"', '%', '@',
    '\x60'].contains c

/-- Plain text starts here. -/
def startsPlain (s : Scan) (a : Char) : Bool :=
  let c := s.cursor
  !(isBlank a || isBreak a || isIndicator a) ||
    (a == '-' && !(c.peekAt? 1).any isBlank) ||
    (!s.inFlow && (a == '?' || a == ':') && !c.blankOrEndAt 1)

/-- Reads the token that starts with `a`. -/
def fetchToken (s : Scan) (a : Char) : Option Scan :=
  let c := s.cursor
  if c.column == 0 && a == '%' then s.fetchDirective
  else if c.atMarker '-' then s.fetchMarker .documentStart
  else if c.atMarker '.' then s.fetchMarker .documentEnd
  else if a == '[' then s.fetchFlowStart .flowSequenceStart
  else if a == '{' then s.fetchFlowStart .flowMappingStart
  else if a == ']' then s.fetchFlowEnd .flowSequenceEnd
  else if a == '}' then s.fetchFlowEnd .flowMappingEnd
  else if a == ',' then s.fetchFlowEntry
  else if a == '-' && c.blankOrEndAt 1 then s.fetchBlockEntry
  else if a == '?' && (s.inFlow || c.blankOrEndAt 1) then s.fetchKey
  else if a == ':' && (s.inFlow || c.blankOrEndAt 1) then s.fetchValue
  else if a == '*' then s.fetchName .reference
  else if a == '&' then s.fetchName .anchor
  else if a == '!' then s.fetchTag
  else if a == '|' && !s.inFlow then s.fetchBlock true
  else if a == '>' && !s.inFlow then s.fetchBlock false
  else if a == '\'' then s.fetchQuoted true
  else if a == '"' then s.fetchQuoted false
  else if s.startsPlain a then s.fetchPlain
  else none

/-- Reads tokens up to the end of the text. -/
def run : Nat → Scan → Option Scan
  | 0, _ => none
  | fuel + 1, s => do
    let s ← (s.toNext (s.cursor.rest.length + 1)).dropStale
    let s := s.leaveBlocks s.cursor.column
    match s.cursor.peek? with
    | none => (s.leaveBlocks (-1)).dropCandidate
    | some a => run fuel (← s.fetchToken a)

end Scan

/-- The tokens of a text. -/
def scan (text : List Char) : Option (List Token) :=
  if text.all isAllowed then
    (Scan.run (text.length + 1) { cursor := .start text }).map (·.tokens.reverse)
  else none

end Token

end Attestation.Yaml
