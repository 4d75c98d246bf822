import Attestation.Json.Printer
import Attestation.Json.Record
import Attestation.Text.Blank
import Attestation.Text.Bytes

/-!
Claim sets.

A claim is a text, a flag, a number or a claim set in turn. The keys of a set increase at every
depth, so its compact JSON text is canonical: it does not tell how the set was built. That
text, as UTF-8, is what gets signed.
-/

namespace Attestation

inductive ClaimValue where
  | text (s : String)
  | flag (b : Bool)
  | number (n : Json.Number)
  | nested (members : List (String × ClaimValue))
  deriving Inhabited

namespace ClaimValue

mutual

/-- The keys increase in every nested set. -/
def Ordered : ClaimValue → Prop
  | .nested members => OrderedMembers members
  | _ => True

def OrderedMembers : List (String × ClaimValue) → Prop
  | [] => True
  | (k, v) :: rest => (∀ k' ∈ Keyed.keys rest, k < k') ∧ v.Ordered ∧ OrderedMembers rest

end

theorem orderedMembers_iff {members : List (String × ClaimValue)} :
    OrderedMembers members ↔ Keyed.Increasing members ∧ ∀ m ∈ members, m.2.Ordered := by
  induction members with
  | nil => simp [OrderedMembers]
  | cons m rest ih =>
    obtain ⟨k, v⟩ := m
    rw [OrderedMembers, ih, Keyed.increasing_cons, List.forall_mem_cons]
    exact ⟨fun ⟨a, b, c, d⟩ => ⟨⟨a, c⟩, b, d⟩, fun ⟨⟨a, c⟩, b, d⟩ => ⟨a, b, c, d⟩⟩

mutual

/-- Reads a claim. -/
def ofDraft? : Json.Draft → Option ClaimValue
  | .string s => s.map .text
  | .bool b => some (.flag b)
  | .number n => n.map .number
  | .object members => (membersOfDraft? members).map fun ms => .nested (Keyed.ofList ms)
  | _ => none

/-- Reads the members of a set, in the order given. -/
def membersOfDraft? :
    List (Option String × Json.Draft) → Option (List (String × ClaimValue))
  | [] => some []
  | (k, d) :: rest => do
    let k ← k
    let v ← ofDraft? d
    let ms ← membersOfDraft? rest
    return (k, v) :: ms

end

mutual

def json : ClaimValue → Json
  | .text s => .string s
  | .flag b => .bool b
  | .number n => .number n
  | .nested members => .object (jsonMembers members)

def jsonMembers : List (String × ClaimValue) → List (String × Json)
  | [] => []
  | (k, v) :: rest => (k, v.json) :: jsonMembers rest

end

mutual

/-- Equality of claims: numbers of one kind are compared as numbers. -/
def same : ClaimValue → ClaimValue → Bool
  | .text s, .text t => s == t
  | .flag a, .flag b => a == b
  | .number m, .number n => m.same n
  | .nested ms, .nested ns => sameMembers ms ns
  | _, _ => false

def sameMembers : List (String × ClaimValue) → List (String × ClaimValue) → Bool
  | [], [] => true
  | (j, v) :: ms, (k, w) :: ns => j == k && same v w && sameMembers ms ns
  | _, _ => false

end

/-- The string form: a text stands for itself, anything else for its JSON text. -/
def display : ClaimValue → String
  | .text s => s
  | v => v.json.text

def ofInt (n : Int) : Json.Number :=
  if h : n < 0 ∧ -0x8000000000000000 ≤ n then .negSucc ⟨(-n - 1).toNat, by omega⟩
  else .natural (UInt64.ofNat n.toNat)

end ClaimValue

/-- A claim with increasing keys at every depth. -/
abbrev Claim := { v : ClaimValue // v.Ordered }

namespace Claim

def text (s : String) : Claim := ⟨.text s, trivial⟩

def flag (b : Bool) : Claim := ⟨.flag b, trivial⟩

def number (n : Json.Number) : Claim := ⟨.number n, trivial⟩

end Claim

/-- Claims under increasing keys. -/
structure ClaimSet where
  entries : List (String × ClaimValue)
  ordered : ClaimValue.OrderedMembers entries

namespace ClaimSet

def empty : ClaimSet := ⟨[], trivial⟩

instance : Inhabited ClaimSet := ⟨empty⟩

def claim (s : ClaimSet) : Claim := ⟨.nested s.entries, s.ordered⟩

def insert (s : ClaimSet) (k : String) (c : Claim) : ClaimSet where
  entries := Keyed.insert k c.1 s.entries
  ordered := by
    obtain ⟨hi, ho⟩ := ClaimValue.orderedMembers_iff.1 s.ordered
    refine ClaimValue.orderedMembers_iff.2 ⟨Keyed.increasing_insert hi, fun m hm => ?_⟩
    rcases Keyed.mem_insert hm with rfl | hm
    · exact c.2
    · exact ho m hm

def ofList (claims : List (String × Claim)) : ClaimSet :=
  claims.foldl (fun s e => s.insert e.1 e.2) empty

def get? (s : ClaimSet) (k : String) : Option ClaimValue := Keyed.find? k s.entries

/-- Puts a claim under `k`, and returns what was there before. -/
def replace (s : ClaimSet) (k : String) (c : Claim) : Option ClaimValue × ClaimSet :=
  (s.get? k, s.insert k c)

/-- The claim under `k` if it is a text that is not blank. -/
def text? (s : ClaimSet) (k : String) : Option String :=
  match s.get? k with
  | some (.text t) => if Text.isBlank t then none else some t
  | _ => none

def contains (s : ClaimSet) (k : String) : Bool := Keyed.contains k s.entries

def size (s : ClaimSet) : Nat := s.entries.length

def isEmpty (s : ClaimSet) : Bool := s.entries.isEmpty

def keys (s : ClaimSet) : List String := Keyed.keys s.entries

/-- The equality that a registry applies to registered and asserted claims. -/
def same (s t : ClaimSet) : Bool := ClaimValue.sameMembers s.entries t.entries

def json (s : ClaimSet) : Json := .object (ClaimValue.jsonMembers s.entries)

/-- The bytes that are signed. -/
def canonical (s : ClaimSet) : List UInt8 := Text.utf8Chars s.json.chars

end ClaimSet

namespace ClaimValue

theorem orderedMembers_ofList {members : List (String × ClaimValue)}
    (h : ∀ m ∈ members, m.2.Ordered) : OrderedMembers (Keyed.ofList members) :=
  orderedMembers_iff.2 ⟨Keyed.increasing_ofList members, fun m hm => h m (Keyed.mem_ofList hm)⟩

mutual

theorem ordered_of_ofDraft? : ∀ (d : Json.Draft) {v : ClaimValue}, ofDraft? d = some v → v.Ordered
  | .string s, v, h => by
    obtain ⟨t, -, rfl⟩ := Option.map_eq_some_iff.1 h
    trivial
  | .bool b, v, h => by
    cases h
    trivial
  | .number n, v, h => by
    obtain ⟨t, -, rfl⟩ := Option.map_eq_some_iff.1 h
    trivial
  | .object members, v, h => by
    obtain ⟨ms, hms, rfl⟩ := Option.map_eq_some_iff.1 h
    exact orderedMembers_ofList (ordered_of_membersOfDraft? members hms)
  | .null, v, h => by simp [ofDraft?] at h
  | .array _, v, h => by simp [ofDraft?] at h
  | .tooDeep, v, h => by simp [ofDraft?] at h

theorem ordered_of_membersOfDraft? : ∀ (ds : List (Option String × Json.Draft))
    {ms : List (String × ClaimValue)}, membersOfDraft? ds = some ms → ∀ m ∈ ms, m.2.Ordered
  | [], ms, h => by
    cases h
    simp
  | (k, d) :: rest, ms, h => by
    simp only [membersOfDraft?, Option.bind_eq_bind, Option.bind_eq_some_iff] at h
    obtain ⟨k', -, v, hv, ms', hms', h⟩ := h
    cases h
    intro m hm
    rcases List.mem_cons.1 hm with rfl | hm
    · exact ordered_of_ofDraft? d hv
    · exact ordered_of_membersOfDraft? rest hms' m hm

end

end ClaimValue

namespace ClaimSet

/-- Reads a claim set. -/
def ofDraft? : Json.Draft → Option ClaimSet
  | .object members =>
    match h : ClaimValue.membersOfDraft? members with
    | some ms =>
      some ⟨Keyed.ofList ms,
        ClaimValue.orderedMembers_ofList (ClaimValue.ordered_of_membersOfDraft? members h)⟩
    | none => none
  | _ => none

/-- The claim set that a JSON value holds. -/
def ofJson? (v : Json) : Option ClaimSet := ofDraft? v.draft

/-- The claim set that a JSON text holds. -/
def parse? (s : String) : Option ClaimSet := (Json.Draft.parse s.toList).bind ofDraft?

end ClaimSet

/-- A claim set with a signature of its canonical bytes in base64. -/
structure SignedClaims where
  claims : ClaimSet
  signature : String

namespace SignedClaims

def json (s : SignedClaims) : Json :=
  .object [("claims", s.claims.json), ("signature", .string s.signature)]

def ofDraft? (d : Json.Draft) : Option SignedClaims := do
  match ← d.fields? ["claims", "signature"] with
  | [claims, signature] =>
    return ⟨← claims.required ClaimSet.ofDraft?, ← signature.required Json.Draft.string?⟩
  | _ => none

end SignedClaims

end Attestation
