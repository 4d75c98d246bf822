import Attestation.Text.Bytes
import Attestation.Yaml.Cursor

/-!
The scalars of YAML: plain, quoted and block text.

Blanks around a line break are dropped inside plain and quoted text, one break becomes a space,
and of more breaks the first is dropped. A block keeps its lines below an indentation; when it
is folded, a break between two lines that start with text becomes a space.
-/

namespace Attestation.Yaml

inductive Style where
  | plain
  | singleQuoted
  | doubleQuoted
  | literal
  | folded
  deriving DecidableEq, Repr

/-- The white space between two stretches of text. -/
structure Gap where
  blanks : List Char := []
  first : List Char := []
  more : List Char := []
  /-- A line break is in it. -/
  broken : Bool := false

namespace Gap

/-- What the gap reads as. -/
def fold (g : Gap) : List Char :=
  if !g.broken then g.blanks
  else if g.first.head? = some '\n' then if g.more.isEmpty then [' '] else g.more
  else g.first ++ g.more

/-- Takes the white space ahead into the gap. After a break no tab may stand left of the column
`margin`. -/
def take (margin : Nat) : Nat → Gap → Cursor → Option (Gap × Cursor)
  | 0, _, _ => none
  | fuel + 1, g, c =>
    match c.peek? with
    | none => some (g, c)
    | some a =>
      if isBlank a then
        if g.broken && c.column < margin && a == '\t' then none
        else if g.broken then take margin fuel g (c.skip 1)
        else take margin fuel { g with blanks := g.blanks ++ [a] } (c.skip 1)
      else if isBreak a then
        let (text, c) := c.takeBreak
        if g.broken then take margin fuel { g with more := g.more ++ text } c
        else take margin fuel { g with blanks := [], first := text, broken := true } c
      else some (g, c)

end Gap

/-! ### Plain text -/

def isFlowIndicator (c : Char) : Bool :=
  c == ',' || c == '[' || c == ']' || c == '{' || c == '}'

/-- A stretch of plain text without white space. -/
def takePlainRun (inFlow : Bool) : List Char → Option (List Char)
  | [] => some []
  | a :: rest =>
    let blankNext := rest.head?.all fun b => isBlank b || isBreak b
    if isBlank a || isBreak a then some []
    else if inFlow && a == ':' && rest.head?.any (fun b => isFlowIndicator b || b == '?') then none
    else if a == ':' && blankNext then some []
    else if inFlow && isFlowIndicator a then some []
    else (takePlainRun inFlow rest).map (a :: ·)

/-- Reads plain text after `text` and a gap. The last gap is handed back. -/
def takePlainAfter (inFlow : Bool) (margin : Nat) :
    Nat → List Char → Gap → Cursor → Option (List Char × Gap × Cursor)
  | 0, _, _, _ => none
  | fuel + 1, text, gap, c => do
    if c.atDocumentMarker || c.seesChar '#' then return (text, gap, c)
    let run ← takePlainRun inFlow c.rest
    let c := c.skip run.length
    let (text, gap) := if run.isEmpty then (text, gap) else (text ++ gap.fold ++ run, {})
    if !c.sees fun a => isBlank a || isBreak a then return (text, gap, c)
    let (gap, c) ← gap.take margin (c.rest.length + 1) c
    if !inFlow && c.column < margin then return (text, gap, c)
    takePlainAfter inFlow margin fuel text gap c

/-- Reads plain text, and tells whether a line break follows it. -/
def takePlain (inFlow : Bool) (margin : Nat) (c : Cursor) :
    Option (List Char × Bool × Cursor) := do
  let (text, gap, c) ← takePlainAfter inFlow margin (c.rest.length + 1) [] {} c
  return (text, gap.broken, c)

/-! ### Quoted text -/

/-- What a single character after a backslash stands for. -/
def escape? : Char → Option Char
  | '0' => some '\x00'
  | 'a' => some '\x07'
  | 'b' => some '\x08'
  | 't' | '\t' => some '\t'
  | 'n' => some '\n'
  | 'v' => some '\x0b'
  | 'f' => some '\x0c'
  | 'r' => some '\r'
  | 'e' => some '\x1b'
  | ' ' => some ' '
  | '"' => some '"'
  | '/' => some '/'
  | '\\' => some '\\'
  | 'N' => some '\u0085'
  | '_' => some '\u00a0'
  | 'L' => some '\u2028'
  | 'P' => some '\u2029'
  | _ => none

/-- The number of hexadecimal digits that an escape takes. -/
def escapeDigits? : Char → Option Nat
  | 'x' => some 2
  | 'u' => some 4
  | 'U' => some 8
  | _ => none

/-- The character behind a backslash, and the number of characters it takes. -/
def readEscape (s : List Char) : Option (Char × Nat) :=
  match s with
  | [] => none
  | a :: rest =>
    match escapeDigits? a with
    | none => (escape? a).map (·, 1)
    | some n => do
      let ds ← (rest.take n).mapM Text.hexValue?
      if ds.length ≠ n then none
      let v := ds.foldl (fun v d => 16 * v + d) 0
      if Nat.isValidChar v then some (Char.ofNat v, n + 1) else none

/-- What ended a stretch of quoted text. -/
inductive Stop where
  | quote
  | space
  /-- A line break behind a backslash, which is left out. -/
  | escapedBreak

/-- Reads quoted text up to white space or the quote. -/
def takeQuotedRun (single : Bool) : Nat → Cursor → Option (List Char × Stop × Cursor)
  | 0, _ => none
  | fuel + 1, c =>
    match c.rest with
    | [] => some ([], .space, c)
    | a :: rest =>
      if isBlank a || isBreak a then some ([], .space, c)
      else if single && a == '\'' && rest.head? == some '\'' then
        (takeQuotedRun single fuel (c.skip 2)).map fun (t, r) => ('\'' :: t, r)
      else if a == (if single then '\'' else '"') then some ([], .quote, c.skip 1)
      else if !single && a == '\\' then
        if rest.head?.any isBreak then some ([], .escapedBreak, (c.skip 1).takeBreak.2)
        else do
          let (b, n) ← readEscape rest
          let (t, r) ← takeQuotedRun single fuel (c.skip (n + 1))
          return (b :: t, r)
      else (takeQuotedRun single fuel (c.skip 1)).map fun (t, r) => (a :: t, r)

/-- Reads quoted text after `text` up to its quote. -/
def takeQuotedAfter (single : Bool) : Nat → List Char → Cursor → Option (List Char × Cursor)
  | 0, _, _ => none
  | fuel + 1, text, c => do
    if c.atDocumentMarker || c.atEnd then none
    let (run, stop, c) ← takeQuotedRun single (c.rest.length + 1) c
    let text := text ++ run
    let gap : Gap ← match stop with
      | .quote => return (text, c)
      | .space => some {}
      | .escapedBreak => some { broken := true }
    let (gap, c) ← gap.take 0 (c.rest.length + 1) c
    takeQuotedAfter single fuel (text ++ gap.fold) c

/-- Reads quoted text from its opening quote on. -/
def takeQuoted (single : Bool) (c : Cursor) : Option (List Char × Cursor) :=
  takeQuotedAfter single (c.rest.length + 1) [] (c.skip 1)

/-! ### Blocks -/

/-- What happens to the line breaks at the end of a block. -/
inductive Chomp where
  | clip
  | strip
  | keep
  deriving DecidableEq

def chomp? : Option Char → Option Chomp
  | some '+' => some .keep
  | some '-' => some .strip
  | _ => none

/-- Reads an indentation of one to nine. -/
def takeIndent (c : Cursor) : Option (Nat × Cursor) :=
  match c.peek? with
  | some a => if a.isDigit then if a = '0' then none else some (a.toNat - 48, c.skip 1)
    else some (0, c)
  | none => some (0, c)

/-- Reads the marks behind the indicator of a block: an indentation, or zero, and how it ends,
in either order. -/
def takeBlockMarks (c : Cursor) : Option (Nat × Chomp × Cursor) :=
  match chomp? c.peek? with
  | some chomp => (takeIndent (c.skip 1)).map fun (n, c) => (n, chomp, c)
  | none => (takeIndent c).map fun (n, c) =>
    match if n = 0 then none else chomp? c.peek? with
    | some chomp => (n, chomp, c.skip 1)
    | none => (n, .clip, c)

/-- Goes past the spaces left of the column `indent`, or past all of them when it is zero, and
past empty lines. Gives the breaks and the greatest column that was reached. -/
def takeBlockBreaks (indent : Nat) :
    Nat → Nat → List Char → Cursor → Option (Nat × List Char × Cursor)
  | 0, _, _, _ => none
  | fuel + 1, reach, breaks, c =>
    let spaces := (c.rest.takeWhile (· == ' ')).length
    let c := c.skip (if indent = 0 then spaces else min spaces (indent - c.column))
    let reach := max reach c.column
    if (indent = 0 || c.column < indent) && c.seesChar '\t' then none
    else if c.sees isBreak then
      let (text, c) := c.takeBreak
      takeBlockBreaks indent fuel reach (breaks ++ text) c
    else some (reach, breaks, c)

/-- What has been read of a block. -/
structure Block where
  text : List Char := []
  /-- The break that ended the last line. -/
  ending : List Char := []
  /-- The empty lines after it. -/
  empty : List Char := []
  /-- The last line started with a blank. -/
  blankStart : Bool := false

/-- The text with the breaks in front of a next line. -/
def Block.joined (literal blankNext : Bool) (b : Block) : List Char :=
  if !literal && b.ending.head? == some '\n' && !b.blankStart && !blankNext then
    b.text ++ (if b.empty.isEmpty then [' '] else b.empty)
  else b.text ++ b.ending ++ b.empty

/-- Reads the lines of a block at the column `indent`. -/
def takeBlockLines (literal : Bool) (indent : Nat) :
    Nat → Block → Cursor → Option (Block × Cursor)
  | 0, _, _ => none
  | fuel + 1, b, c => do
    if c.column ≠ indent || c.atEnd then return (b, c)
    let blankNext := c.sees isBlank
    let text := b.joined literal blankNext
    let (line, c) := c.takeWhile (!isBreak ·)
    let (ending, c) := c.takeBreak
    let (_, empty, c) ← takeBlockBreaks indent (c.rest.length + 1) 0 [] c
    takeBlockLines literal indent fuel ⟨text ++ line, ending, empty, blankNext⟩ c

/-- Reads a block from its indicator on, below the indentation of what holds it. -/
def takeBlock (literal : Bool) (outer : Int) (c : Cursor) : Option (List Char × Cursor) := do
  let (increment, chomp, c) ← takeBlockMarks (c.skip 1)
  let c := c.skipComment
  if !c.atLineEnd then none
  let c := c.takeBreak.2
  let given := if increment = 0 then 0 else (max outer 0).toNat + increment
  let (reach, empty, c) ← takeBlockBreaks given (c.rest.length + 1) 0 [] c
  let indent := if given = 0 then max (max reach (outer + 1).toNat) 1 else given
  let (b, c) ← takeBlockLines literal indent (c.rest.length + 1) { empty := empty } c
  return (match chomp with
    | .strip => b.text
    | .clip => b.text ++ b.ending
    | .keep => b.text ++ b.ending ++ b.empty, c)

end Attestation.Yaml
