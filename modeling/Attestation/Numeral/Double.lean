/-!
Binary64 numbers by their bits.

The sign is the top bit and the rest is the magnitude, whose order as a natural number is the
order of the values it encodes. Rounding takes an exact ratio of naturals to the nearest
magnitude, and a tie to the even one; multiplication and division round the exact result.
-/

namespace Attestation.Numeral

/-- A binary64 number, one per bit pattern: the two zeros differ, and so do two NaNs. -/
structure Double where
  bits : UInt64
  deriving DecidableEq, Repr, Inhabited

namespace Double

/-- The magnitude of infinity; greater ones are NaN. -/
def infMagnitude : Nat := 0x7FF0000000000000

def isNegative (x : Double) : Bool := 0x8000000000000000 ≤ x.bits.toNat

def magnitude (x : Double) : Nat := x.bits.toNat % 0x8000000000000000

def isNaN (x : Double) : Bool := infMagnitude < x.magnitude

def isInfinite (x : Double) : Bool := x.magnitude == infMagnitude

def isFinite (x : Double) : Bool := x.magnitude < infMagnitude

def isZero (x : Double) : Bool := x.magnitude == 0

def ofMagnitude (negative : Bool) (m : Nat) : Double :=
  ⟨UInt64.ofNat (if negative then 0x8000000000000000 + m else m)⟩

def zero : Double := ⟨0⟩

def infinity (negative : Bool) : Double := ofMagnitude negative infMagnitude

def nan : Double := ofMagnitude false (infMagnitude + 0x8000000000000)

def neg (x : Double) : Double := ofMagnitude (!x.isNegative) x.magnitude

/-- With `shift`, gives the value of a finite magnitude as `significand m * 2 ^ shift m`. -/
def significand (m : Nat) : Nat :=
  if m < 0x10000000000000 then m else 0x10000000000000 + m % 0x10000000000000

/-- The power of two that the significand of a finite magnitude counts. -/
def shift (m : Nat) : Int :=
  if m < 0x10000000000000 then -1074 else (m / 0x10000000000000 : Nat) - 1075

/-- The greatest `k` with `2 ^ k ≤ num / den`, for positive arguments. -/
def floorLog (num den : Nat) : Int :=
  let k : Int := (num.log2 : Int) - den.log2
  if den * Nat.pow 2 k.toNat ≤ num * Nat.pow 2 (-k).toNat then k else k - 1

/-- The quotient to the nearest whole number, ties to even. -/
def roundDiv (num den : Nat) : Nat :=
  let q := num / den
  let r := num % den
  if 2 * r < den then q
  else if den < 2 * r then q + 1
  else if q % 2 = 0 then q else q + 1

/-- The magnitude nearest to `num / den`, ties to even. -/
def roundRatio (num den : Nat) : Nat :=
  if num = 0 then 0
  else
    let e := max (floorLog num den - 52) (-1074)
    let q := roundDiv (num * Nat.pow 2 (-e).toNat) (den * Nat.pow 2 e.toNat)
    min ((e + 1074).toNat * 0x10000000000000 + q) infMagnitude

/-- The magnitude nearest to `digits * 10 ^ e`. Beyond the range of binary64 the power is not
computed. -/
def roundDecimal (digits : Nat) (e : Int) : Nat :=
  if digits = 0 then 0
  else
    let top := e + (digits.log2 / 4 : Nat)
    let bound := e + (digits.log2 : Nat)
    if 400 < top then infMagnitude
    else if bound < -400 then 0
    else roundRatio (digits * Nat.pow 10 e.toNat) (Nat.pow 10 (-e).toNat)

def ofDecimal (negative : Bool) (digits : Nat) (e : Int) : Double :=
  ofMagnitude negative (roundDecimal digits e)

def ofNat (n : Nat) : Double := ofMagnitude false (roundRatio n 1)

/-- The product of two finite numbers, rounded once. -/
def mul (x y : Double) : Double :=
  let s := shift x.magnitude + shift y.magnitude
  let m := significand x.magnitude * significand y.magnitude
  ofMagnitude (x.isNegative != y.isNegative) (roundRatio (m * Nat.pow 2 s.toNat) (Nat.pow 2 (-s).toNat))

/-- The quotient of a finite number by a finite one that is not zero, rounded once. -/
def div (x y : Double) : Double :=
  let s := shift x.magnitude - shift y.magnitude
  ofMagnitude (x.isNegative != y.isNegative)
    (roundRatio (significand x.magnitude * Nat.pow 2 s.toNat)
      (significand y.magnitude * Nat.pow 2 (-s).toNat))

/-- The place of a number in the order of values; the two zeros share one, NaN has none. -/
def rank (x : Double) : Option Int :=
  if x.isNaN then none
  else some (if x.isNegative then -(x.magnitude : Int) else x.magnitude)

/-- Numeric order: nothing when a side is NaN. -/
def compare (x y : Double) : Option Ordering := do
  let a ← x.rank
  let b ← y.rank
  return Ord.compare a b

/-- Numeric equality: the two zeros are equal, and NaN equals nothing. -/
def numEq (x y : Double) : Bool := x.compare y == some .eq

end Double

end Attestation.Numeral
