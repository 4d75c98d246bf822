import Attestation.Text.Bytes

/-!
Punycode: text beyond ASCII written with letters, digits and hyphens.

The ASCII characters come first as they are. What follows tells, smallest code point first,
where the others are put in, as numbers in a base of 36 whose digits have thresholds that adapt
to the numbers before.
-/

namespace Attestation.Punycode

/-- The weight that the digits adapt to after a number that is the first or a later one. -/
def adaptLoop (k delta : Nat) : Nat :=
  if h : 455 < delta then adaptLoop (k + 36) (delta / 35)
  else k + 36 * delta / (delta + 38)
termination_by delta
decreasing_by omega

def adapt (delta count : Nat) (first : Bool) : Nat :=
  let delta := if first then delta / 700 else delta / 2
  adaptLoop 0 (delta + delta / count)

def threshold (k bias : Nat) : Nat := max 1 (min 26 (k - bias))

def digit (n : Nat) : Char := Char.ofNat (if n < 26 then 97 + n else 22 + n)

/-- The digits of a number, the first with the weight `k`. -/
def digits (bias k q : Nat) : List Char :=
  let t := threshold k bias
  if h : t ≤ q then digit (t + (q - t) % (36 - t)) :: digits bias (k + 36) ((q - t) / (36 - t))
  else [digit q]
termination_by q
decreasing_by
  have : 1 ≤ threshold k bias := Nat.le_max_left _ _
  exact Nat.lt_of_le_of_lt (Nat.div_le_self _ _) (by omega)

/-- How far an encoding has come. -/
structure State where
  delta : Nat
  bias : Nat
  handled : Nat
  out : List Char

/-- Puts in every `n` of the text, whose characters below `n` are already in. -/
def insertAll (basic n : Nat) (s : State) : List Nat → State
  | [] => s
  | c :: rest =>
    if c < n then insertAll basic n { s with delta := s.delta + 1 } rest
    else if c = n then
      insertAll basic n
        ⟨0, adapt s.delta (s.handled + 1) (s.handled == basic), s.handled + 1,
          s.out ++ digits s.bias 36 s.delta⟩ rest
    else insertAll basic n s rest

/-- Goes through the code points beyond ASCII, each once and in increasing order. -/
def encodeLevels (basic : Nat) (text : List Nat) : Nat → State → List Nat → State
  | _, s, [] => s
  | n, s, m :: more =>
    let s := { s with delta := s.delta + (m - n) * (s.handled + 1) }
    let s := insertAll basic m s text
    encodeLevels basic text (m + 1) { s with delta := s.delta + 1 } more

def encode (s : List Char) : List Char :=
  let text := s.map Char.toNat
  let basic := s.filter Text.isAscii
  let others := ((text.filter fun n => 128 ≤ n).mergeSort (fun a b => decide (a ≤ b))).eraseDups
  let start := if basic.isEmpty then [] else basic ++ ['-']
  (encodeLevels basic.length text 128 ⟨0, 72, basic.length, start⟩ others).out

def value? (c : Char) : Option Nat :=
  if 'a' ≤ c ∧ c ≤ 'z' then some (c.toNat - 97)
  else if '0' ≤ c ∧ c ≤ '9' then some (c.toNat - 22)
  else none

/-- Numbers have at most 32 bits. -/
def bounded? (n : Nat) : Option Nat := if n < 0x100000000 then some n else none

/-- The number at the start of the text, added to `i`, and the rest. -/
def takeNumber (bias : Nat) : Nat → Nat → Nat → List Char → Option (Nat × List Char)
  | _, _, _, [] => none
  | k, weight, i, c :: rest => do
    let d ← value? c
    let t := threshold k bias
    let i ← bounded? (i + d * weight)
    if d < t then return (i, rest)
    takeNumber bias (k + 36) (← bounded? (weight * (36 - t))) i rest

/-- Puts characters into `out` until the text is used up, at most `fuel` of them. -/
def decodeFrom : Nat → Nat → Nat → Nat → List Nat → List Char → Option (List Nat)
  | 0, _, _, _, _, _ => none
  | fuel + 1, n, i, bias, out, s =>
    if s.isEmpty then some out
    else do
      let (j, rest) ← takeNumber bias 36 1 i s
      let size := out.length + 1
      let n := n + j / size
      let at_ := j % size
      let out := out.take at_ ++ n :: out.drop at_
      decodeFrom fuel n (at_ + 1) (adapt (j - i) size (i == 0)) out rest

/-- The text before the last hyphen and the text after it. A hyphen with nothing before it
parts nothing. -/
def splitLast (s : List Char) : List Char × List Char :=
  let tail := (s.reverse.takeWhile (· != '-')).reverse
  let head := s.take (s.length - tail.length)
  if head.length ≤ 1 then ([], s) else (head.dropLast, tail)

def decode (s : List Char) : Option (List Char) := do
  let (basic, tail) := splitLast s
  let cps ← decodeFrom (tail.length + 1) 128 0 72 (basic.map Char.toNat) tail
  if cps.all fun n => Nat.isValidChar n then some (cps.map Char.ofNat) else none

end Attestation.Punycode
