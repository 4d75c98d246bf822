import Attestation.Error
import Attestation.Text.Blank
import Attestation.Time.Instant

/-!
Reading timestamps in the format of RFC 3339.

Date and time are parted by a `T` in either case or a space. A fraction may have any number of
digits, of which nine count. The offset is a `Z` in either case or hours and minutes after a
sign, for which the true minus sign will do as well.
-/

namespace Attestation.Time

/-- The value of exactly `n` digits at the start. -/
def takeNumber (n : Nat) (s : List Char) : Option (Nat × List Char) :=
  let ds := s.take n
  if ds.length = n ∧ ds.all Char.isDigit then
    some (ds.foldl (fun v c => 10 * v + (c.toNat - 48)) 0, s.drop n)
  else none

def takeChar (p : Char → Bool) : List Char → Option (List Char)
  | [] => none
  | c :: rest => if p c then some rest else none

/-- Nanoseconds from the digits after the point. -/
def takeFraction : List Char → Option (Nat × List Char)
  | '.' :: rest =>
    let ds := rest.takeWhile Char.isDigit
    if ds.isEmpty then none
    else
      let nine := (ds ++ List.replicate 9 '0').take 9
      some (nine.foldl (fun v c => 10 * v + (c.toNat - 48)) 0, rest.dropWhile Char.isDigit)
  | rest => some (0, rest)

def takeOffset : List Char → Option (Int × List Char)
  | [] => none
  | c :: rest =>
    if c = 'Z' ∨ c = 'z' then some (0, rest)
    else if c = '+' ∨ c = '-' ∨ c = '\u2212' then do
      let (h, rest) ← takeNumber 2 rest
      let rest ← takeChar (· == ':') rest
      let (m, rest) ← takeNumber 2 rest
      if h ≤ 23 ∧ m ≤ 59 then
        let n : Int := (h * 3600 + m * 60 : Nat)
        some (if c = '+' then n else -n, rest)
      else none
    else none

/-- The date and time that a whole text spells. -/
def Civil.parse (s : List Char) : Option Civil := do
  let (year, s) ← takeNumber 4 s
  let s ← takeChar (· == '-') s
  let (month, s) ← takeNumber 2 s
  let s ← takeChar (· == '-') s
  let (day, s) ← takeNumber 2 s
  let s ← takeChar (fun c => c == 'T' || c == 't' || c == ' ') s
  let (hour, s) ← takeNumber 2 s
  let s ← takeChar (· == ':') s
  let (minute, s) ← takeNumber 2 s
  let s ← takeChar (· == ':') s
  let (second, s) ← takeNumber 2 s
  let (nanos, s) ← takeFraction s
  let (offset, s) ← takeOffset s
  let c : Civil := ⟨year, month, day, hour, minute, second, nanos, offset⟩
  if s.isEmpty && c.isValid then some c else none

/-- The instant of a timestamp, with white space around it allowed. -/
def Instant.parse (s : String) : Except Error Instant :=
  match Civil.parse (Text.trimChars s.toList) with
  | some c => .ok c.instant
  | none => .error (.invalidTimestamp s)

end Attestation.Time
