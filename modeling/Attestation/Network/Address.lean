import Attestation.Text.Blank
import Attestation.Text.Bytes

/-!
Addresses of the internet protocol, version 4 and 6, and networks of them.

An address of version 4 is four decimal numbers without leading zeros. One of version 6 is
eight groups of hexadecimal digits; one stretch of zero groups may be left out, and the last
two groups may be written as an address of version 4. A network is an address, whose host bits
may be set, with the number of leading bits that count.
-/

namespace Attestation.Network

inductive Address where
  | v4 (a : BitVec 32)
  | v6 (a : BitVec 128)
  deriving DecidableEq, Repr

/-- The value of a decimal number below 256 without leading zeros. -/
def octet? (s : List Char) : Option Nat :=
  match s with
  | [] => none
  | '0' :: _ :: _ => none
  | _ =>
    if s.length ≤ 3 ∧ s.all Char.isDigit then
      let n := s.foldl (fun n c => 10 * n + (c.toNat - 48)) 0
      if n < 256 then some n else none
    else none

def v4? (s : List Char) : Option (BitVec 32) :=
  match (Text.splitChars (· == '.') s).mapM octet? with
  | some [a, b, c, d] => some (BitVec.ofNat 32 (((a * 256 + b) * 256 + c) * 256 + d))
  | _ => none

/-- The value of one to four hexadecimal digits. -/
def group? (s : List Char) : Option Nat :=
  if s.isEmpty || 4 < s.length then none
  else (s.mapM Text.hexValue?).map fun ds => ds.foldl (fun n d => 16 * n + d) 0

/-- Groups of which the last may be an address of version 4, which is two groups. -/
def groups? : List (List Char) → Option (List Nat)
  | [] => some []
  | [s] =>
    if s.contains '.' then (v4? s).map fun a => [a.toNat / 65536, a.toNat % 65536]
    else (group? s).map ([·])
  | s :: rest => do
    let g ← group? s
    let gs ← groups? rest
    return g :: gs

/-- The text before the first double colon and the text after it. -/
def splitGap : List Char → Option (List Char × List Char)
  | [] => none
  | ':' :: ':' :: rest => some ([], rest)
  | c :: rest => (splitGap rest).map fun (head, tail) => (c :: head, tail)

/-- The pieces between colons; an empty text has none. -/
def colonPieces (s : List Char) : List (List Char) :=
  if s.isEmpty then [] else Text.splitChars (· == ':') s

def ofGroups (gs : List Nat) : BitVec 128 :=
  BitVec.ofNat 128 (gs.foldl (fun n g => 65536 * n + g) 0)

def v6? (s : List Char) : Option (BitVec 128) :=
  match splitGap s with
  | none => do
    let gs ← groups? (colonPieces s)
    if gs.length = 8 then some (ofGroups gs) else none
  | some (head, tail) => do
    let front ← (colonPieces head).mapM group?
    let back ← groups? (colonPieces tail)
    let n := front.length + back.length
    if n ≤ 7 then some (ofGroups (front ++ List.replicate (8 - n) 0 ++ back)) else none

def Address.parse (s : List Char) : Option Address :=
  match v4? s with
  | some a => some (.v4 a)
  | none => (v6? s).map .v6

/-- A network: an address and the number of leading bits that count. -/
inductive Block where
  | v4 (a : BitVec 32) (bits : Fin 33)
  | v6 (a : BitVec 128) (bits : Fin 129)
  deriving DecidableEq, Repr

/-- The number of leading bits as decimal digits, with leading zeros and a plus sign allowed. -/
def bits? (s : List Char) : Option Nat :=
  let ds := match s with
    | '+' :: ds => ds
    | ds => ds
  if ds.isEmpty || !ds.all Char.isDigit then none
  else some (ds.foldl (fun n c => 10 * n + (c.toNat - 48)) 0)

/-- The number of leading ones of a mask that has no others. -/
def maskBits? (mask : BitVec 32) : Option (Fin 33) :=
  (List.finRange 33).find? fun p => mask.toNat = 0x100000000 - Nat.pow 2 (32 - p.val)

def Block.parse (s : List Char) : Option Block :=
  match Text.splitChars (· == '/') s with
  | [addr, count] =>
    match Address.parse addr with
    | some (.v4 a) =>
      match v4? count with
      | some mask => (maskBits? mask).map (.v4 a)
      | none => (bits? count).bind fun n => if h : n < 33 then some (.v4 a ⟨n, h⟩) else none
    | some (.v6 a) =>
      (bits? count).bind fun n => if h : n < 129 then some (.v6 a ⟨n, h⟩) else none
    | none => none
  | _ => none

/-- The leading bits agree; versions never mix. -/
def Block.contains : Block → Address → Bool
  | .v4 a p, .v4 b => a.toNat / Nat.pow 2 (32 - p.val) == b.toNat / Nat.pow 2 (32 - p.val)
  | .v6 a p, .v6 b => a.toNat / Nat.pow 2 (128 - p.val) == b.toNat / Nat.pow 2 (128 - p.val)
  | _, _ => false

end Attestation.Network
