import Attestation.Ed25519.Curve
import Attestation.Ed25519.Sha512

/-!
Signing and verifying with Ed25519.

Verification recomputes the encoding of the first half of a signature and compares bytes, so
no cofactor is cleared; keys of small order and keys that are not reduced are used as they are.
-/

namespace Attestation.Ed25519

/-- The order of the group that the base point generates. -/
def order : Nat :=
  0x1000000000000000000000000000000014def9dea2f79cd65812631a5cf5d3ed

def hashScalar (bytes : List UInt8) : Nat := ofLittleEndian (Sha512.hash bytes) % order

/-- The top bit of every secret scalar. -/
def topBit : Nat := 0x4000000000000000000000000000000000000000000000000000000000000000

/-- The secret scalar: the first half of the hashed seed, with the low three bits cleared and
the top one set. -/
def secretScalar (seed : List UInt8) : Nat :=
  let n := ofLittleEndian ((Sha512.hash seed).take 32)
  n % topBit / 8 * 8 + topBit

/-- The half of the hashed seed that makes the nonces. -/
def noncePrefix (seed : List UInt8) : List UInt8 := (Sha512.hash seed).drop 32

def publicBytes (seed : List UInt8) : List UInt8 :=
  (Point.base.times (secretScalar seed)).encode

def sign (seed message : List UInt8) : List UInt8 :=
  let key := publicBytes seed
  let r := hashScalar (noncePrefix seed ++ message)
  let point := (Point.base.times r).encode
  let k := hashScalar (point ++ key ++ message)
  point ++ littleEndian 32 ((r + k * secretScalar seed) % order)

inductive Verdict where
  | valid
  | scalarTooLarge
  | equationFails
  deriving DecidableEq, Repr

/-- Checks a signature of 64 bytes against a public key of 32 bytes. -/
def verify (key message signature : List UInt8) : Verdict :=
  let point := signature.take 32
  let s := ofLittleEndian (signature.drop 32)
  if order ≤ s then .scalarTooLarge
  else
    match Point.decode? key with
    | none => .equationFails
    | some a =>
      let k := hashScalar (point ++ key ++ message)
      let expected := (Point.base.times s).add (a.neg.times k)
      if expected.encode = point then .valid else .equationFails

end Attestation.Ed25519
