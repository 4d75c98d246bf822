import Attestation.Encoding.Base64
import Attestation.Error
import Attestation.Text.Blank
import Attestation.Text.Bytes

/-!
PEM text around the bytes of a key.

A document is read as runs: an armor run is dashes, a label of capitals and spaces, and dashes
again, each stretch as long as it can be; everything else is body, of which ASCII white space
is dropped. Armor may be missing and lines may be laid out in any way, but every label has to
name the kind of key that is asked for.
-/

namespace Attestation

inductive KeyKind where
  | signing
  | verifying
  deriving DecidableEq, Repr

def KeyKind.label : KeyKind → String
  | .signing => "PRIVATE KEY"
  | .verifying => "PUBLIC KEY"

namespace Pem

def isDash (c : Char) : Bool := c == '-'

/-- A capital letter or a space. -/
def isLabelChar (c : Char) : Bool := c.isUpper || c == ' '

/-- One run of a document. -/
inductive Token where
  | armor (label : List Char)
  | body (c : Char)
  | gap (c : Char)
  deriving DecidableEq, Repr

/-- The run at the start of a text, and the rest. Nothing when the text is empty. -/
def token? : List Char → Option (Except PemFault (Token × List Char))
  | [] => none
  | c :: rest =>
    if isDash c then
      let afterOpen := rest.dropWhile isDash
      let label := afterOpen.takeWhile isLabelChar
      let afterLabel := afterOpen.dropWhile isLabelChar
      match label, afterLabel with
      | _ :: _, d :: afterDash =>
        if isDash d then some (.ok (.armor label, afterDash.dropWhile isDash))
        else some (.error .malformedArmor)
      | _, _ => some (.error .malformedArmor)
    else if Text.isAsciiSpace c then some (.ok (.gap c, rest))
    else some (.ok (.body c, rest))

/-- Every run takes at least one character. -/
theorem length_of_token? {s rest : List Char} {t : Token}
    (h : token? s = some (.ok (t, rest))) : rest.length < s.length := by
  cases s with
  | nil => simp [token?] at h
  | cons c s =>
    simp only [token?] at h
    split at h
    · split at h
      · rename_i d afterDash hl heq
        split at h
        · simp only [Option.some.injEq, Except.ok.injEq, Prod.mk.injEq] at h
          have h1 := (List.dropWhile_sublist (l := s) isDash).length_le
          have h2 := (List.dropWhile_sublist (l := s.dropWhile isDash) isLabelChar).length_le
          have h3 := (List.dropWhile_sublist (l := afterDash) isDash).length_le
          rw [heq] at h2
          simp only [List.length_cons] at h2 ⊢
          rw [← h.2]
          omega
        · simp at h
      · simp at h
    · split at h <;>
      · simp only [Option.some.injEq, Except.ok.injEq, Prod.mk.injEq] at h
        simp [← h.2]

/-- The runs of a text. -/
def tokens (s : List Char) : Except PemFault (List Token) :=
  match h : token? s with
  | none => .ok []
  | some (.error e) => .error e
  | some (.ok (t, rest)) =>
    have := length_of_token? h
    (tokens rest).map (t :: ·)
termination_by s.length

/-- The labels of the armor runs, trimmed. -/
def labels (ts : List Token) : List (List Char) :=
  ts.filterMap fun
    | .armor label => some (Text.stripWhile (· == ' ') label)
    | _ => none

/-- The characters outside armor, without the white space. -/
def bodyChars (ts : List Token) : List Char :=
  ts.filterMap fun
    | .body c => some c
    | _ => none

/-- A label without the word that opens or closes a document. -/
def labelName (label : String) : String :=
  match label.toList with
  | 'B' :: 'E' :: 'G' :: 'I' :: 'N' :: ' ' :: rest => String.ofList rest
  | 'E' :: 'N' :: 'D' :: ' ' :: rest => String.ofList rest
  | _ => label

/-- The first label that does not name the kind. -/
def wrongLabel? (kind : KeyKind) (ts : List Token) : Option String :=
  ((labels ts).map String.ofList).find? fun label => labelName label != kind.label

/-- The bytes of a document of the given kind. -/
def decode (kind : KeyKind) (pem : String) : Except Error (List UInt8) :=
  match tokens pem.toList with
  | .error fault => .error (.invalidPem fault)
  | .ok ts =>
    match wrongLabel? kind ts with
    | some label => .error (.invalidPem (.wrongLabel kind.label label))
    | none =>
      match bodyChars ts with
      | [] => .error (.invalidPem .emptyBody)
      | body =>
        match Base64.decode body with
        | some bytes => .ok bytes
        | none => .error (.invalidPem .badBase64)

/-- The text in lines of `width + 1` characters, each ended by a line feed. -/
def wrap (width : Nat) : List Char → List Char
  | [] => []
  | c :: rest => c :: rest.take width ++ '\n' :: wrap width (rest.drop width)
termination_by s => s.length
decreasing_by
  simp only [List.length_drop, List.length_cons]
  omega

def armorLine (word label : String) : List Char :=
  "-----".toList ++ word.toList ++ ' ' :: label.toList ++ "-----\n".toList

/-- The document of a key, in lines of 64 characters. -/
def encode (kind : KeyKind) (bytes : List UInt8) : String :=
  String.ofList <| armorLine "BEGIN" kind.label ++ wrap 63 (Base64.encode bytes) ++
    armorLine "END" kind.label

end Pem

end Attestation
