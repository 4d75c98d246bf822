import Attestation.Claims.Basic
import Attestation.Ed25519.Scheme
import Attestation.Encoding.KeyDocument
import Attestation.Encoding.Pem

/-!
Keys, signatures and key pairs.

A signing key is a seed, a verifying key is the encoding of a point, and a signature is 64
bytes; all travel as text, keys in PEM and signatures in base64. The halves of a key pair
belong together: the public one verifies what the private one signs.
-/

namespace Attestation

/-- A sequence of exactly `n` bytes. -/
structure Octets (n : Nat) where
  bytes : List UInt8
  length_eq : bytes.length = n
  deriving DecidableEq

namespace Octets

def ofList? (n : Nat) (bytes : List UInt8) : Option (Octets n) :=
  if h : bytes.length = n then some ⟨bytes, h⟩ else none

/-- The first `n` bytes, with zeros where bytes are missing. -/
def fit (n : Nat) (bytes : List UInt8) : Octets n :=
  ⟨(bytes ++ List.replicate n 0).take n, by simp⟩

theorem fit_of_length {n : Nat} {bytes : List UInt8} (h : bytes.length = n) :
    fit n bytes = ⟨bytes, h⟩ := by
  subst h
  simp [fit]

end Octets

structure Signature where
  octets : Octets 64
  deriving DecidableEq

namespace Signature

/-- Reads base64, with white space around it allowed. -/
def ofBase64 (s : String) : Except Error Signature :=
  match Base64.decode (Text.trimChars s.toList) with
  | none => .error (.signatureInvalid .badBase64)
  | some bytes =>
    match Octets.ofList? 64 bytes with
    | none => .error (.signatureInvalid (.wrongLength bytes.length))
    | some octets => .ok ⟨octets⟩

def base64 (s : Signature) : String := String.ofList (Base64.encode s.octets.bytes)

end Signature

structure PublicKey where
  octets : Octets 32
  deriving DecidableEq

namespace PublicKey

/-- The bytes stand for a point of the curve. -/
def isPoint (k : PublicKey) : Bool := (Ed25519.Point.decode? k.octets.bytes).isSome

def ofOctets (octets : Octets 32) : Except Error PublicKey :=
  let k : PublicKey := ⟨octets⟩
  if k.isPoint then .ok k else .error (.invalidKey .notAPoint)

def bytes (k : PublicKey) : List UInt8 := k.octets.bytes

/-- The first eight bytes in hexadecimal. -/
def fingerprint (k : PublicKey) : String := Text.hex (k.bytes.take 8)

/-- The key in the bytes of a public document. -/
def ofDocument? (der : List UInt8) : Option PublicKey := do
  let octets ← Octets.ofList? 32 (← KeyDocument.decodePublic der)
  (ofOctets octets).toOption

def ofPem (pem : String) : Except Error PublicKey := do
  let der ← Pem.decode .verifying pem
  match ofDocument? der with
  | some k => return k
  | none => throw (.invalidKey .badPublicDocument)

def pem (k : PublicKey) : String := Pem.encode .verifying (KeyDocument.encodePublic k.bytes)

def verify (k : PublicKey) (message : List UInt8) (s : Signature) : Except Error Unit :=
  match Ed25519.verify k.bytes message s.octets.bytes with
  | .valid => .ok ()
  | .scalarTooLarge => .error (.signatureInvalid .scalarTooLarge)
  | .equationFails => .error (.signatureInvalid .equationFails)

end PublicKey

structure SigningKey where
  seed : Octets 32
  deriving DecidableEq

namespace SigningKey

def publicKey (k : SigningKey) : PublicKey := ⟨.fit 32 (Ed25519.publicBytes k.seed.bytes)⟩

def sign (k : SigningKey) (message : List UInt8) : Signature :=
  ⟨.fit 64 (Ed25519.sign k.seed.bytes message)⟩

/-- The key in the bytes of a private document, whose public half, if it is there, has to be
the derived one. -/
def ofDocument? (der : List UInt8) : Option SigningKey := do
  let (seed, key) ← KeyDocument.decodePrivate der
  let k : SigningKey := ⟨← Octets.ofList? 32 seed⟩
  match key with
  | none => some k
  | some bytes => if bytes = k.publicKey.bytes then some k else none

def ofPem (pem : String) : Except Error SigningKey := do
  let der ← Pem.decode .signing pem
  match ofDocument? der with
  | some k => return k
  | none => throw (.invalidKey .badPrivateDocument)

def pem (k : SigningKey) : String :=
  Pem.encode .signing (KeyDocument.encodePrivate k.seed.bytes k.publicKey.bytes)

/-- What is shown of a signing key. -/
def display (_ : SigningKey) : String :=
  "SigningKey \x7b signing_key: \"***SECRET***\" \x7d"

def signClaims (k : SigningKey) (claims : ClaimSet) : String := (k.sign claims.canonical).base64

end SigningKey

/-- The message whose signature shows that two halves belong together. -/
def probeMessage : List UInt8 := Text.utf8 "key-validation"

/-- The public key verifies what the signing key signs. -/
def keysMatch (public_ : PublicKey) (signing : SigningKey) : Bool :=
  (public_.verify probeMessage (signing.sign probeMessage)).isOk

/-- The signature, as text, is one of the claims under the key. -/
def verifySignature (key : PublicKey) (signature : String) (claims : ClaimSet) : Bool :=
  match Signature.ofBase64 signature with
  | .ok s => (key.verify claims.canonical s).isOk
  | .error _ => false

/-- The same with the key as PEM; a text that is no key verifies nothing. -/
def verifySignaturePem (pem signature : String) (claims : ClaimSet) : Bool :=
  match PublicKey.ofPem pem with
  | .ok key => verifySignature key signature claims
  | .error _ => false

structure KeyPair where
  signing : SigningKey
  verifying : PublicKey
  matching : keysMatch verifying signing = true

namespace KeyPair

def ofParts (signing : SigningKey) (verifying : PublicKey) : Except Error KeyPair :=
  if h : keysMatch verifying signing = true then .ok ⟨signing, verifying, h⟩
  else .error (.keyMismatch verifying.fingerprint)

end KeyPair

namespace SignedClaims

def sign (claims : ClaimSet) (key : SigningKey) : SignedClaims :=
  ⟨claims, key.signClaims claims⟩

def verify (s : SignedClaims) (key : PublicKey) : Bool :=
  verifySignature key s.signature s.claims

end SignedClaims

end Attestation
