/-!
The twisted Edwards curve of Ed25519.

Field elements are residues modulo `2 ^ 255 - 19`. A point is held in extended coordinates,
for which one addition law covers every pair of points. The encoding of a point is its second
coordinate, little-endian in 32 bytes, with the parity of the first coordinate in the top bit.
-/

namespace Attestation.Ed25519

/-- The order of the field. -/
abbrev prime : Nat :=
  0x7fffffffffffffffffffffffffffffffffffffffffffffffffffffffffffffed

abbrev Residue := Fin prime

namespace Residue

instance : @NeZero Nat Zero.ofOfNat0 prime := ⟨Nat.succ_ne_zero _⟩

def ofNat (n : Nat) : Residue := Fin.ofNat prime n

def pow (x : Residue) (n : Nat) : Residue :=
  if n = 0 then 1
  else
    let h := pow x (n / 2)
    if n % 2 = 0 then h * h else h * h * x
termination_by n

/-- The inverse of an element that is not zero. -/
def inv (x : Residue) : Residue := x.pow (prime - 2)

def isOdd (x : Residue) : Bool := x.val % 2 == 1

/-- A square root of minus one. -/
def rootOfMinusOne : Residue :=
  ofNat 19681161376707505956807079304988542015446066515923890162744021073123829784752

/-- The even square root of `u / v`, if there is one. -/
def sqrtRatio? (u v : Residue) : Option Residue :=
  let v3 := v * v * v
  let r := u * v3 * (u * v3 * v3 * v).pow ((prime - 5) / 8)
  let check := v * (r * r)
  let root := if check = u then some r else if check = -u then some (r * rootOfMinusOne) else none
  root.map fun r => if r.isOdd then -r else r

end Residue

/-- The point `(x / z, y / z)`, with `x * y = z * t`. -/
structure Point where
  x : Residue
  y : Residue
  z : Residue
  t : Residue

namespace Point

/-- The constant of the curve equation `-x² + y² = 1 + d x² y²`. -/
def d : Residue :=
  .ofNat 37095705934669439343138083508754565189542113879843219016388785533085940283555

def zero : Point := ⟨0, 1, 1, 0⟩

def ofAffine (x y : Residue) : Point := ⟨x, y, 1, x * y⟩

/-- The generator of the prime-order group. -/
def base : Point :=
  ofAffine
    (.ofNat 15112221349535400772501151409588531511454012693041857206046113283949847762202)
    (.ofNat 46316835694926478169428394003475163141307993866256225615783033603165251855960)

def add (p q : Point) : Point :=
  let a := (p.y - p.x) * (q.y - q.x)
  let b := (p.y + p.x) * (q.y + q.x)
  let c := p.t * 2 * d * q.t
  let e := p.z * 2 * q.z
  ⟨(b - a) * (e - c), (e + c) * (b + a), (e - c) * (e + c), (b - a) * (b + a)⟩

def neg (p : Point) : Point := ⟨-p.x, p.y, p.z, -p.t⟩

/-- The sum of `n` copies of a point, by doubling. -/
def times (n : Nat) (p : Point) : Point :=
  if n = 0 then zero
  else
    let h := times (n / 2) p
    if n % 2 = 0 then h.add h else (h.add h).add p
termination_by n

end Point

/-- The number whose little-endian bytes these are. -/
def ofLittleEndian : List UInt8 → Nat
  | [] => 0
  | b :: rest => b.toNat + 256 * ofLittleEndian rest

/-- The last `k` little-endian bytes of a number. -/
def littleEndian : Nat → Nat → List UInt8
  | 0, _ => []
  | k + 1, n => UInt8.ofNat n :: littleEndian k (n / 256)

/-- The top bit of 32 bytes. -/
def signBit : Nat := 0x8000000000000000000000000000000000000000000000000000000000000000

namespace Point

def encode (p : Point) : List UInt8 :=
  let w := p.z.inv
  let x := p.x * w
  let y := p.y * w
  littleEndian 32 (y.val + if x.isOdd then signBit else 0)

/-- The point an encoding stands for. The second coordinate is reduced, and a set top bit is
allowed with a first coordinate of zero. -/
def decode? (bytes : List UInt8) : Option Point :=
  let n := ofLittleEndian bytes
  let y := Residue.ofNat (n % signBit)
  let yy := y * y
  (Residue.sqrtRatio? (yy - 1) (d * yy + 1)).map fun x =>
    ofAffine (if n / signBit % 2 = 1 then -x else x) y

end Point

end Attestation.Ed25519
