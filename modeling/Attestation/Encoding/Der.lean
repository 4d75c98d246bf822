/-!
Distinguished encoding of nested elements.

An element is a tag, the length of its content in the fewest bytes, and the content. Tags of
more than one byte are not read.
-/

namespace Attestation.Der

structure Element where
  tag : UInt8
  content : List UInt8
  deriving DecidableEq, Repr

/-- The universal tags that are known. -/
def universalTags : List UInt8 :=
  [0x01, 0x02, 0x03, 0x04, 0x05, 0x06, 0x09, 0x0A, 0x0C, 0x12, 0x13, 0x14, 0x15, 0x16, 0x17,
   0x18, 0x1A, 0x1E, 0x30, 0x31]

/-- A known universal tag, or a tag of another class with a number below 31. -/
def isTag (t : UInt8) : Bool :=
  universalTags.contains t || (0x40 ≤ t && t % 32 != 31)

/-- The number of big-endian bytes. -/
def ofBigEndian (bytes : List UInt8) : Nat := bytes.foldl (fun n b => 256 * n + b.toNat) 0

/-- A length and what follows it. A longer form is refused where a shorter one would do. -/
def takeLength : List UInt8 → Option (Nat × List UInt8)
  | [] => none
  | b :: rest =>
    if b < 0x80 then some (b.toNat, rest)
    else
      let k := b.toNat - 0x80
      let n := ofBigEndian (rest.take k)
      if 1 ≤ k ∧ k ≤ 4 ∧ k ≤ rest.length ∧ 0x80 ≤ n ∧ Nat.pow 256 (k - 1) ≤ n ∧ n < 0x10000000 then
        some (n, rest.drop k)
      else none

def takeElement : List UInt8 → Option (Element × List UInt8)
  | [] => none
  | t :: rest => do
    if !isTag t then none
    let (n, rest) ← takeLength rest
    if rest.length < n then none
    return (⟨t, rest.take n⟩, rest.drop n)

/-- An element with the given tag. -/
def takeTagged (tag : UInt8) (bytes : List UInt8) : Option (List UInt8 × List UInt8) :=
  match takeElement bytes with
  | some (e, rest) => if e.tag = tag then some (e.content, rest) else none
  | none => none

/-- The content of the only element, which has the given tag. -/
def onlyElement (tag : UInt8) (bytes : List UInt8) : Option (List UInt8) :=
  match takeTagged tag bytes with
  | some (content, []) => some content
  | _ => none

/-- An element whose length takes one byte. -/
def element (tag : UInt8) (content : List UInt8) : List UInt8 :=
  tag :: UInt8.ofNat content.length :: content

theorem length_takeLength {bytes rest : List UInt8} {n : Nat}
    (h : takeLength bytes = some (n, rest)) : rest.length < bytes.length := by
  cases bytes with
  | nil => simp [takeLength] at h
  | cons b bytes =>
    simp only [takeLength] at h
    split at h
    · simp only [Option.some.injEq, Prod.mk.injEq] at h
      simp [← h.2]
    · split at h
      · simp only [Option.some.injEq, Prod.mk.injEq] at h
        simp only [← h.2, List.length_drop, List.length_cons]
        omega
      · exact absurd h (Option.some_ne_none _).symm

theorem length_takeElement {bytes rest : List UInt8} {e : Element}
    (h : takeElement bytes = some (e, rest)) : rest.length < bytes.length := by
  cases bytes with
  | nil => simp [takeElement] at h
  | cons t bytes =>
    simp only [takeElement] at h
    split at h
    · simp at h
    · simp only [Option.bind_eq_bind, Option.bind_eq_some_iff, Prod.exists] at h
      obtain ⟨n, mid, hl, h⟩ := h
      have := length_takeLength hl
      split at h
      · simp at h
      · cases h
        simp only [List.length_drop, List.length_cons]
        omega

end Attestation.Der
