import Attestation.Numeral.Double
import Attestation.Text.Blank

/-!
Reading a binary64 number from text.

The digits before and after the point are one whole number, scaled by the exponent and rounded
once. Infinity and NaN have names, in any case; either side of the point may be empty, but not
both, and nothing may surround the number.
-/

namespace Attestation.Numeral

/-- The value of a run of decimal digits read after `n`. -/
def natOfDigits (n : Nat) (ds : List Char) : Nat :=
  ds.foldl (fun n c => 10 * n + (c.toNat - 48)) n

/-- The exponent part: nothing, or a mark, an optional sign and at least one digit. -/
def readExponent : List Char → Option Int
  | [] => some 0
  | mark :: rest =>
    if mark = 'e' ∨ mark = 'E' then
      let (negative, ds) := match rest with
        | '-' :: ds => (true, ds)
        | '+' :: ds => (false, ds)
        | ds => (false, ds)
      if ds.isEmpty || !ds.all Char.isDigit then none
      else
        let n : Int := natOfDigits 0 ds
        some (if negative then -n else n)
    else none

/-- An exponent beyond every digit of the text decides between zero and infinity alone. -/
def clampExponent (length : Nat) (e : Int) : Int :=
  max (-(length : Int) - 1000) (min (length + 1000) e)

def readUnsigned (negative : Bool) (s : List Char) : Option Double :=
  let whole := s.takeWhile Char.isDigit
  let rest := s.dropWhile Char.isDigit
  let (places, rest) := match rest with
    | '.' :: more => (more.takeWhile Char.isDigit, more.dropWhile Char.isDigit)
    | more => ([], more)
  if whole.isEmpty && places.isEmpty then
    let word := String.ofList (s.map Char.toLower)
    if word == "inf" || word == "infinity" then some (Double.infinity negative)
    else if word == "nan" then some Double.nan
    else none
  else do
    let e ← readExponent rest
    let digits := natOfDigits 0 (whole ++ places)
    return Double.ofDecimal negative digits (clampExponent s.length e - places.length)

/-- A signed number, a signed infinity or NaN. -/
def readDouble : List Char → Option Double
  | '-' :: s => readUnsigned true s
  | '+' :: s => readUnsigned false s
  | s => readUnsigned false s

end Attestation.Numeral
