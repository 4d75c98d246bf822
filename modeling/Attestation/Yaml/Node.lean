import Attestation.Yaml.Token

/-!
The nodes of a YAML document.

A node is text, a sequence or a mapping, each perhaps with a tag, or a reference to a node with
an anchor, which may even be around it. A key or a value that is left out is empty plain text.
A text holds at most one document.

A reference holds a number: an anchor gets the number of different names in front of it. So
when a name is used again, two anchors may come to share a number, and then it stands for the
later one, also in the references between the two.
-/

namespace Attestation.Yaml

inductive Node where
  | scalar (tag : Option (List UInt8)) (style : Style) (text : List Char)
  | sequence (tag : Option (List UInt8)) (items : List Node)
  | mapping (tag : Option (List UInt8)) (pairs : List (Node × Node))
  | reference (number : Nat)
  deriving Inhabited, Repr

/-- A node with an anchor. -/
structure Anchored where
  number : Nat
  /-- The number of anchors in front of this one. -/
  place : Nat
  node : Node

/-- A document: its root, if it has one, and its nodes with an anchor. -/
structure Document where
  root : Option Node
  anchored : List Anchored

namespace Node

/-- Text that is left out. -/
def empty : Node := .scalar none .plain []

/-- What has been read so far, and the tokens ahead. -/
structure Reading where
  tokens : List Token
  /-- What the handles of tags stand for. -/
  handles : List (List Char × List UInt8)
  /-- The names of the anchors, each with the number of its last one. -/
  names : List (List Char × Nat) := []
  /-- The number of anchors so far. -/
  anchors : Nat := 0
  anchored : List Anchored := []

namespace Reading

def drop (r : Reading) : Reading := { r with tokens := r.tokens.drop 1 }

/-- The next token is one of `ts`; the end of the text is not looked for. -/
def seesAny (ts : List Token) (r : Reading) : Bool := r.tokens.head?.any ts.contains

def sees (t : Token) (r : Reading) : Bool := r.tokens.head? == some t

/-- The text ends here or one of `ts` comes next. -/
def endsAt (ts : List Token) (r : Reading) : Bool := r.tokens.head?.all ts.contains

end Reading

/-- The tag that a handle and a suffix stand for. -/
def resolveTag (r : Reading) (handle : List Char) (suffix : List UInt8) :
    Option (List UInt8) :=
  if handle.isEmpty then some suffix
  else ((r.handles.find? (·.1 == handle)).map fun h => h.2 ++ suffix)

/-- The anchor and the tag in front of a node, in either order. -/
structure Properties where
  anchor : Option (List Char) := none
  tag : Option (List UInt8) := none

def takeAnchor (r : Reading) : Option (List Char) × Reading :=
  match r.tokens with
  | .anchor name :: _ => (some name, r.drop)
  | _ => (none, r)

def takeTag (r : Reading) : Option (Option (List UInt8) × Reading) :=
  match r.tokens with
  | .tag handle suffix :: _ => (resolveTag r handle suffix).map fun t => (some t, r.drop)
  | _ => some (none, r)

def takeProperties (r : Reading) : Option (Properties × Reading) := do
  let (anchor, r) := takeAnchor r
  let (tag, r) ← takeTag r
  let (anchor, r) := if anchor.isSome then (anchor, r) else takeAnchor r
  return (⟨anchor, tag⟩, r)

/-- Gives the anchor a number, before what it stands at is read. -/
def register (p : Properties) (r : Reading) : Option (Nat × Nat) × Reading :=
  match p.anchor with
  | none => (none, r)
  | some name =>
    let number := r.names.length
    let others := r.names.filter (·.1 != name)
    (some (number, r.anchors),
      { r with names := (name, number) :: others, anchors := r.anchors + 1 })

/-- Keeps the node at an anchor. -/
def store (anchor : Option (Nat × Nat)) (n : Node) (r : Reading) : Reading :=
  match anchor with
  | none => r
  | some (number, place) => { r with anchored := ⟨number, place, n⟩ :: r.anchored }

/-- The tag of a scalar that is there; the bare tag says nothing about it. -/
def scalarTag (tag : Option (List UInt8)) : Option (List UInt8) :=
  tag.filter (· != Token.bareTag)

mutual

/-- Reads a node. Block collections may only stand in a block, and a sequence at the column of
its key has no token for its start. -/
def take (block flat : Bool) : Nat → Reading → Option (Node × Reading)
  | 0, _ => none
  | fuel + 1, r =>
    match r.tokens with
    | .reference name :: _ =>
      (r.names.find? (·.1 == name)).map fun e => (.reference e.2, r.drop)
    | _ => do
      let (p, r) ← takeProperties r
      let (anchor, r) := register p r
      let (n, r) ← takeContent block flat p.tag (p.anchor.isSome || p.tag.isSome) fuel r
      return (n, store anchor n r)

/-- Reads what stands behind the anchor and the tag of a node. -/
def takeContent (block flat : Bool) (tag : Option (List UInt8)) (marked : Bool) :
    Nat → Reading → Option (Node × Reading)
  | 0, _ => none
  | fuel + 1, r =>
    match r.tokens with
    | .scalar style text :: _ => some (.scalar (scalarTag tag) style text, r.drop)
    | .flowSequenceStart :: _ =>
      (takeFlowItems true fuel r.drop).map fun (xs, r) => (.sequence tag xs, r)
    | .flowMappingStart :: _ =>
      (takeFlowPairs true fuel r.drop).map fun (ps, r) => (.mapping tag ps, r)
    | t :: _ =>
      if flat && t == .blockEntry then
        (takeFlatItems fuel r).map fun (xs, r) => (.sequence tag xs, r)
      else if block && t == .blockSequenceStart then
        (takeBlockItems fuel r.drop).map fun (xs, r) => (.sequence tag xs, r)
      else if block && t == .blockMappingStart then
        (takeBlockPairs fuel r.drop).map fun (ps, r) => (.mapping tag ps, r)
      else if marked then some (.scalar tag .plain [], r)
      else none
    | [] => if marked then some (.scalar tag .plain [], r) else none

/-- Reads a node unless the text ends or one of `ends` comes next, which leaves it out. -/
def takeUnless (ends : List Token) (block flat : Bool) :
    Nat → Reading → Option (Node × Reading)
  | 0, _ => none
  | fuel + 1, r => if r.seesAny ends then some (empty, r) else take block flat fuel r

/-- Reads the items of a block sequence up to its end. -/
def takeBlockItems : Nat → Reading → Option (List Node × Reading)
  | 0, _ => none
  | fuel + 1, r =>
    if r.sees .blockEntry then do
      let (x, r) ← takeUnless [.blockEntry, .blockEnd] true false fuel r.drop
      let (xs, r) ← takeBlockItems fuel r
      return (x :: xs, r)
    else if r.sees .blockEnd then some ([], r.drop)
    else none

/-- Reads the items of a sequence at the column of its key. -/
def takeFlatItems : Nat → Reading → Option (List Node × Reading)
  | 0, _ => none
  | fuel + 1, r =>
    if r.sees .blockEntry then do
      let (x, r) ← takeUnless [.blockEntry, .key, .value, .blockEnd] true false fuel r.drop
      let (xs, r) ← takeFlatItems fuel r
      return (x :: xs, r)
    else some ([], r)

/-- Reads the pairs of a block mapping up to its end. -/
def takeBlockPairs : Nat → Reading → Option (List (Node × Node) × Reading)
  | 0, _ => none
  | fuel + 1, r =>
    if r.sees .key then do
      let ends := [.key, .value, .blockEnd]
      let (k, r) ← takeUnless ends true true fuel r.drop
      let (v, r) ←
        if r.sees .value then takeUnless ends true true fuel r.drop else some (empty, r)
      let (ps, r) ← takeBlockPairs fuel r
      return ((k, v) :: ps, r)
    else if r.sees .blockEnd then some ([], r.drop)
    else none

/-- Reads the value of a pair in a flow collection that ends with `close`. -/
def takeFlowValue (close : Token) : Nat → Reading → Option (Node × Reading)
  | 0, _ => none
  | fuel + 1, r =>
    if r.sees .value then takeUnless [.flowEntry, close] false false fuel r.drop
    else some (empty, r)

/-- Reads the items of a flow sequence up to its end. An item may be a single pair. -/
def takeFlowItems (first : Bool) : Nat → Reading → Option (List Node × Reading)
  | 0, _ => none
  | fuel + 1, r =>
    let close := Token.flowSequenceEnd
    if r.sees close then some ([], r.drop)
    else if !first && !r.sees .flowEntry then none
    else do
      let r := if first then r else r.drop
      if r.sees close then return ([], r.drop)
      let (x, r) ←
        if r.sees .key then do
          let r := r.drop
          let (k, r) ←
            if r.seesAny [.value, .flowEntry, close] then some (empty, r.drop)
            else take false false fuel r
          let (v, r) ← takeFlowValue close fuel r
          some (Node.mapping none [(k, v)], r)
        else take false false fuel r
      let (xs, r) ← takeFlowItems false fuel r
      return (x :: xs, r)

/-- Reads the pairs of a flow mapping up to its end. -/
def takeFlowPairs (first : Bool) : Nat → Reading → Option (List (Node × Node) × Reading)
  | 0, _ => none
  | fuel + 1, r =>
    let close := Token.flowMappingEnd
    if r.sees close then some ([], r.drop)
    else if !first && !r.sees .flowEntry then none
    else do
      let r := if first then r else r.drop
      if r.sees close then return ([], r.drop)
      let (k, v, r) ←
        if r.sees .key then do
          let (k, r) ← takeUnless [.value, .flowEntry, close] false false fuel r.drop
          let (v, r) ← takeFlowValue close fuel r
          some (k, v, r)
        else do
          let (k, r) ← take false false fuel r
          some (k, empty, r)
      let (ps, r) ← takeFlowPairs false fuel r
      return ((k, v) :: ps, r)

end

end Node

namespace Document

/-- The handles that need no directive. -/
def standardHandles : List (List Char × List UInt8) :=
  [(['!'], Token.bareTag), (['!', '!'], Text.utf8 "tag:yaml.org,2002:")]

/-- The directives in front of a document: the handles they declare, and whether a version was
given. -/
def takeDirectives (versioned : Bool) (handles : List (List Char × List UInt8)) :
    List Token → Option (List (List Char × List UInt8) × List Token)
  | .version major minor :: rest =>
    if versioned || major ≠ 1 || (minor ≠ 1 && minor ≠ 2) then none
    else takeDirectives true handles rest
  | .tagHandle handle start :: rest =>
    if handles.any (·.1 == handle) then none
    else takeDirectives versioned ((handle, start) :: handles) rest
  | rest => some (handles, rest)

/-- Declared handles come before the standard ones. -/
def withStandard (handles : List (List Char × List UInt8)) : List (List Char × List UInt8) :=
  handles ++ standardHandles

/-- Reads the content of a document that ends the text. -/
def ofContent (handles : List (List Char × List UInt8)) (explicit : Bool) (ts : List Token) :
    Option Document := do
  let r : Node.Reading := { tokens := ts, handles := withStandard handles }
  let ends := [.documentStart, .documentEnd]
  let (root, r) ←
    if explicit && r.endsAt ends then some (Node.empty, r)
    else Node.take true false (4 * ts.length + 4) r
  if r.tokens.all (· == .documentEnd) then some ⟨some root, r.anchored⟩ else none

/-- The document that tokens spell out. -/
def ofTokens? (ts : List Token) : Option Document :=
  match ts with
  | [] => some ⟨none, []⟩
  | .version _ _ :: _ | .tagHandle _ _ :: _ | .documentStart :: _ => do
    let (handles, rest) ← takeDirectives false [] ts
    match rest with
    | .documentStart :: content => ofContent handles true content
    | _ => none
  | _ => ofContent [] false ts

/-- The document in a text. -/
def parse? (text : String) : Option Document := do ofTokens? (← Token.scan text.toList)

/-- The later of two anchors, if there are any. -/
def later (a? : Option Anchored) (b : Anchored) : Option Anchored :=
  match a? with
  | some a => if a.place < b.place then some b else some a
  | none => some b

/-- The node that a node stands for. -/
def resolve (d : Document) : Node → Option Node
  | .reference i => ((d.anchored.filter (·.number == i)).foldl later none).map Anchored.node
  | n => some n

end Document

end Attestation.Yaml
