import Attestation.Encoding.Der

/-!
Key documents for Ed25519: the private form with its seed and, in version 1, the public half,
and the public form.

Both name the algorithm by its object identifier without parameters. A private document may
carry attributes before the public half and further tagged fields after it; they are skipped.
-/

namespace Attestation.KeyDocument

open Der

/-- The object identifier 1.3.101.112. -/
def algorithm : List UInt8 := element 0x06 [0x2B, 0x65, 0x70]

/-- The content of a bit string without unused bits. -/
def wholeBits : List UInt8 → Option (List UInt8)
  | 0 :: bytes => some bytes
  | _ => none

def encodePrivate (seed key : List UInt8) : List UInt8 :=
  element 0x30 <|
    element 0x02 [1] ++ element 0x30 algorithm ++ element 0x04 (element 0x04 seed) ++
      element 0x81 (0 :: key)

def encodePublic (key : List UInt8) : List UInt8 :=
  element 0x30 (element 0x30 algorithm ++ element 0x03 (0 :: key))

def decodePublic (bytes : List UInt8) : Option (List UInt8) := do
  let body ← onlyElement 0x30 bytes
  let (alg, rest) ← takeTagged 0x30 body
  if alg ≠ algorithm then none
  let key ← wholeBits (← onlyElement 0x03 rest)
  if key.length = 32 then some key else none

/-- The public half among the tagged fields, past fields with the number 0, and the fields
after it. -/
def takePublic : List UInt8 → Option (Option (List UInt8) × List UInt8)
  | [] => some (none, [])
  | t :: more =>
    if t = 0x80 ∨ t = 0xA0 then
      match h : takeElement (t :: more) with
      | some (_, rest) =>
        have := length_takeElement h
        takePublic rest
      | none => none
    else if t = 0x81 then do
      let (content, rest) ← takeTagged 0x81 (t :: more)
      let key ← wholeBits content
      return (some key, rest)
    else if t = 0xA1 then none
    else some (none, t :: more)
termination_by fields => fields.length
decreasing_by assumption

/-- Nothing but constructed context-specific fields, each around one element. -/
def areExtensions (fields : List UInt8) : Bool :=
  match h : takeElement fields with
  | none => fields.isEmpty
  | some (e, rest) =>
    have := length_takeElement h
    0xA0 ≤ e.tag && e.tag < 0xC0 && (takeElement e.content).any (fun r => r.2.isEmpty) &&
      areExtensions rest
termination_by fields.length
decreasing_by assumption

/-- The seed of a private document and the public half if it holds one. -/
def decodePrivate (bytes : List UInt8) : Option (List UInt8 × Option (List UInt8)) := do
  let body ← onlyElement 0x30 bytes
  let (version, rest) ← takeTagged 0x02 body
  let (alg, rest) ← takeTagged 0x30 rest
  let (secret, rest) ← takeTagged 0x04 rest
  let (key, rest) ← takePublic rest
  if alg ≠ algorithm then none
  if version ≠ [if key.isSome then 1 else 0] then none
  if !areExtensions rest then none
  let seed ← onlyElement 0x04 secret
  if seed.length ≠ 32 || key.any (fun k => k.length ≠ 32) then none
  return (seed, key)

end Attestation.KeyDocument
