import Attestation.Numeral.Double

/-!
The decimal text of a finite binary64 number.

The digits are the fewest that read back to the number, and of those the nearest to its value:
on the grid of `n` significant digits only the two neighbours of the value have to be tried.
Every text holds a point or an exponent, so it is never the text of a whole number.
-/

namespace Attestation.Numeral

/-- The greatest `k` with `10 ^ k ≤ num / den`, for positive arguments, when `k` is one of the
four whole numbers from `low`. -/
def floorLogTen (num den : Nat) (low : Int) : Int :=
  let reached (k : Int) : Bool := den * Nat.pow 10 k.toNat ≤ num * Nat.pow 10 (-k).toNat
  if reached (low + 3) then low + 3
  else if reached (low + 2) then low + 2
  else if reached (low + 1) then low + 1
  else low

/-- `digits * 10 ^ exponent`. -/
structure Decimal where
  digits : Nat
  exponent : Int
  deriving DecidableEq, Repr

namespace Decimal

/-- Moves final zeros of the digits into the exponent, at most `fuel` of them. -/
def stripZeros : Nat → Decimal → Decimal
  | 0, d => d
  | fuel + 1, d =>
    if d.digits ≠ 0 ∧ d.digits % 10 = 0 then stripZeros fuel ⟨d.digits / 10, d.exponent + 1⟩
    else d

/-- The nearer of the two neighbours of `num / den` on the grid of multiples of `10 ^ e` that
read back to the magnitude `m`; of two that are equally near, the even one. -/
def neighbour? (m num den : Nat) (e : Int) : Option Decimal :=
  let a := num * Nat.pow 10 (-e).toNat
  let b := den * Nat.pow 10 e.toNat
  let low := a / b
  let below := Double.roundDecimal low e == m
  let above := Double.roundDecimal (low + 1) e == m
  if below && (!above || Double.roundDiv a b == low) then some ⟨low, e⟩
  else if above then some ⟨low + 1, e⟩
  else none

/-- All the digits of the value of a finite magnitude. -/
def exact (m : Nat) : Decimal :=
  let s := Double.shift m
  if 0 ≤ s then ⟨Double.significand m * Nat.pow 2 s.toNat, 0⟩
  else ⟨Double.significand m * Nat.pow 5 (-s).toNat, s⟩

/-- The fewest digits that read back to the finite magnitude `m`. -/
def shortest (m : Nat) : Decimal :=
  let s := Double.shift m
  let num := Double.significand m * Nat.pow 2 s.toNat
  let den := Nat.pow 2 (-s).toNat
  let top := floorLogTen num den (Double.floorLog num den * 30103 / 100000 - 1)
  let short := (List.range 17).findSome? fun (n : Nat) => neighbour? m num den (top - n)
  stripZeros 20 (short.getD (exact m))

def zeros (n : Nat) : List Char := List.replicate n '0'

/-- Positional when the first digit stands for `10 ^ x` with `-5 ≤ x ≤ 15`, otherwise with an
exponent that always has a sign. -/
def text (d : Decimal) : List Char :=
  let ds := Nat.toDigits 10 d.digits
  let x := d.exponent + (ds.length : Int) - 1
  if -5 ≤ x ∧ x ≤ 15 then
    if 0 ≤ d.exponent then ds ++ zeros d.exponent.toNat ++ ['.', '0']
    else if 0 ≤ x then ds.take (x.toNat + 1) ++ '.' :: ds.drop (x.toNat + 1)
    else '0' :: '.' :: zeros (-x - 1).toNat ++ ds
  else
    let mantissa := match ds with
      | [] => []
      | [c] => [c]
      | c :: more => c :: '.' :: more
    mantissa ++ 'e' :: (if x < 0 then '-' else '+') :: Nat.toDigits 10 x.natAbs

end Decimal

/-- The text of a finite number. -/
def Double.text (x : Double) : List Char :=
  let body := if x.isZero then ['0', '.', '0'] else (Decimal.shortest x.magnitude).text
  if x.isNegative then '-' :: body else body

end Attestation.Numeral
