/-!
Instants and the civil calendar.

An instant is a count of seconds since the start of 1970 and of nanoseconds in the second. In a
leap second the nanoseconds go on past the last billion, so instants are ordered by seconds
first and nanoseconds second.
-/

namespace Attestation.Time

structure Instant where
  seconds : Int
  nanos : Nat
  deriving DecidableEq, Repr

def Instant.compare (a b : Instant) : Ordering :=
  (Ord.compare a.seconds b.seconds).then (Ord.compare a.nanos b.nanos)

def isLeapYear (y : Nat) : Bool := y % 4 == 0 && (y % 100 != 0 || y % 400 == 0)

def daysInMonth (y m : Nat) : Nat :=
  match m with
  | 2 => if isLeapYear y then 29 else 28
  | 4 | 6 | 9 | 11 => 30
  | _ => 31

/-- The days of a year before the first of month `m`. -/
def daysBeforeMonth (y : Nat) : Nat → Nat
  | 0 => 0
  | 1 => 0
  | m + 1 => daysBeforeMonth y m + daysInMonth y m

/-- The leap years before the year `y`, the year zero included. -/
def leapYearsBefore (y : Nat) : Nat := (y + 3) / 4 - (y + 99) / 100 + (y + 399) / 400

/-- The days from the first of January of the year zero. -/
def dayNumber (y m d : Nat) : Nat :=
  365 * y + leapYearsBefore y + daysBeforeMonth y m + (d - 1)

/-- A date and a time of day, and the offset from universal time they are written with. -/
structure Civil where
  year : Nat
  month : Nat
  day : Nat
  hour : Nat
  minute : Nat
  second : Nat
  nanos : Nat
  /-- Seconds to the east. -/
  offset : Int
  deriving DecidableEq, Repr

namespace Civil

/-- The fields are in range; a sixtieth second may follow any minute. -/
def isValid (c : Civil) : Bool :=
  1 ≤ c.month && c.month ≤ 12 && 1 ≤ c.day && c.day ≤ daysInMonth c.year c.month &&
    c.hour ≤ 23 && c.minute ≤ 59 && c.second ≤ 60

/-- Seconds since the start of 1970 by the wall clock; a sixtieth second counts with the one
before it. -/
def wallSeconds (c : Civil) : Int :=
  ((dayNumber c.year c.month c.day : Int) - dayNumber 1970 1 1) * 86400 +
    (c.hour * 3600 + c.minute * 60 + min c.second 59 : Nat)

def instant (c : Civil) : Instant :=
  ⟨c.wallSeconds - c.offset, c.nanos + if c.second = 60 then 1000000000 else 0⟩

end Civil

end Attestation.Time
