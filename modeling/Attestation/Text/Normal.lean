import Attestation.Text.NormalTable

/-!
The normal form of text under canonical equivalence.

Characters are taken apart, the marks after a letter are put in the order of their classes, and
what can be composed is composed again. Marks of one class keep their order, and a mark takes
part in a composition only if no mark of its class or a higher one stands before it.
-/

namespace Attestation.Text.Normal

open NormalTable

/-- The combining class of a character; zero for one that is no mark. -/
def classOf (c : Char) : Nat :=
  match classes.find? fun entry => isAmong entry.2 c with
  | some entry => entry.1
  | none => 0

/-! ### Syllables -/

/-- The leading consonant, the vowel and the final consonant of a syllable of Hangul. -/
def letters? (c : Char) : Option (List Char) :=
  let n := c.toNat - 0xAC00
  if c.toNat < 0xAC00 ∨ 11172 ≤ n then none
  else
    let last := if n % 28 = 0 then [] else [Char.ofNat (0x11A7 + n % 28)]
    some (Char.ofNat (0x1100 + n / 588) :: Char.ofNat (0x1161 + n % 588 / 28) :: last)

/-- The syllable of a consonant and a vowel, or of a syllable without a final consonant and one. -/
def syllable? (a b : Char) : Option Char :=
  let (m, n) := (a.toNat, b.toNat)
  if 0x1100 ≤ m ∧ m < 0x1113 ∧ 0x1161 ≤ n ∧ n < 0x1176 then
    some (Char.ofNat (0xAC00 + 588 * (m - 0x1100) + 28 * (n - 0x1161)))
  else if 0xAC00 ≤ m ∧ m < 0xD7A4 ∧ (m - 0xAC00) % 28 = 0 ∧ 0x11A7 < n ∧ n < 0x11C3 then
    some (Char.ofNat (m + (n - 0x11A7)))
  else none

/-! ### Taking apart and composing -/

/-- The characters that `c` stands for, one step down. -/
def parts (c : Char) : List Char :=
  ((letters? c).or ((image? composites c).or (image? decomposed c))).getD [c]

/-- Takes characters apart until nothing is left to do; no character has more than three
layers. -/
def decompose (s : List Char) : List Char :=
  ((s.flatMap parts).flatMap parts).flatMap parts

/-- Puts a character after a text that is read backwards, a mark before the marks of higher
classes at its end. -/
def settle (c : Char) : List Char → List Char
  | [] => [c]
  | d :: before =>
    if 0 < classOf c ∧ classOf c < classOf d then d :: settle c before else c :: d :: before

def arrange (s : List Char) : List Char := (s.foldl (fun before c => settle c before) []).reverse

/-- The character that two characters are composed to. -/
def composite? (a b : Char) : Option Char :=
  (syllable? a b).or <|
    (composites.find? fun m => m.target == [a.toNat, b.toNat]).map fun m =>
      Char.ofNat m.span.first

/-- Composes a text that goes on with `c`; the marks after `c`, read backwards, could not be
composed with it. -/
def composeAfter (c : Char) (marks : List Char) : List Char → List Char
  | [] => c :: marks.reverse
  | d :: rest =>
    let blocked := marks.head?.any fun m => classOf d ≤ classOf m
    match if blocked then none else composite? c d with
    | some e => composeAfter e marks rest
    | none =>
      if classOf d = 0 then c :: marks.reverse ++ composeAfter d [] rest
      else composeAfter c (d :: marks) rest

def compose : List Char → List Char
  | [] => []
  | c :: rest => composeAfter c [] rest

end Normal

/-- The canonically composed form of a text. -/
def normal (s : List Char) : List Char := Normal.compose (Normal.arrange (Normal.decompose s))

end Attestation.Text
