import Attestation.Key
import Attestation.Proofs.Claims.Routes
import Attestation.Proofs.Text.Order

/-!
A claim set forgets how it was built.

It starts empty, collected from pairs, from a JSON value or from a file, and then claims are put
in, over older ones or not. Whatever the way, the keys increase at every depth, and what is
signed depends on nothing but the claim that each key ends up with.
-/

namespace Attestation

/-! ### Order at every depth -/

namespace Keyed

lemma pairwise_utf8_keys {α : Type} {m : List (String × α)} (h : Increasing m) :
    ((keys m).map Text.utf8).Pairwise (· < ·) :=
  List.pairwise_map.2 (h.imp Text.utf8_lt_utf8_iff.2)

end Keyed

namespace ClaimValue

/-- The members `ns` are those of the set with the members `ms`, or of one nested in it. -/
inductive Within : List (String × ClaimValue) → List (String × ClaimValue) → Prop
  | here {ms : List (String × ClaimValue)} : Within ms ms
  | nested {k : String} {inner ms ns : List (String × ClaimValue)} (hk : (k, .nested inner) ∈ ms)
      (h : Within ns inner) : Within ns ms

lemma OrderedMembers.within {ms ns : List (String × ClaimValue)} (hms : OrderedMembers ms)
    (h : Within ns ms) : OrderedMembers ns := by
  induction h with
  | here => exact hms
  | nested hk _ ih => exact ih ((orderedMembers_iff.1 hms).2 _ hk)

end ClaimValue

namespace ClaimSet

/-- At every depth the keys are distinct and increase in the order of their bytes. -/
def Canonical (s : ClaimSet) : Prop :=
  ∀ ms, ClaimValue.Within ms s.entries →
    (Keyed.keys ms).Nodup ∧ ((Keyed.keys ms).map Text.utf8).Pairwise (· < ·)

lemma isCanonical (s : ClaimSet) : s.Canonical := by
  intro ms hms
  have hinc := (ClaimValue.orderedMembers_iff.1 (s.ordered.within hms)).1
  exact ⟨Keyed.nodup_keys_of_increasing hinc, Keyed.pairwise_utf8_keys hinc⟩

lemma eq_of_get?_eq {s t : ClaimSet} (h : ∀ k, s.get? k = t.get? k) : s = t := by
  have hentries : s.entries = t.entries := Keyed.eq_of_find?_eq
    (ClaimValue.orderedMembers_iff.1 s.ordered).1 (ClaimValue.orderedMembers_iff.1 t.ordered).1 h
  cases s
  cases t
  cases hentries
  rfl

/-! ### Putting claims in -/

lemma get?_insert (s : ClaimSet) (k k' : String) (c : Claim) :
    (s.insert k' c).get? k = if k = k' then some c.1 else s.get? k :=
  Keyed.find?_insert k k' c.1 s.entries

/-- Puts claims in, one after the other, and lists what each of them replaced. -/
def replaceAll (s : ClaimSet) : List (String × Claim) → List (Option ClaimValue) × ClaimSet
  | [] => ([], s)
  | (k, c) :: rest =>
    let (old, t) := s.replace k c
    let (olds, u) := t.replaceAll rest
    (old :: olds, u)

/-- The claim that is put under `k` last. -/
def lastPut? (k : String) (puts : List (String × Claim)) : Option ClaimValue :=
  (puts.reverse.find? fun e => e.1 = k).map fun e => e.2.1

lemma lastPut?_cons (k k' : String) (c : Claim) (puts : List (String × Claim)) :
    lastPut? k ((k', c) :: puts) = (lastPut? k puts).or (if k = k' then some c.1 else none) := by
  rw [lastPut?, List.reverse_cons, List.find?_append, Option.map_or, ← lastPut?]
  by_cases h : k = k'
  · simp [h]
  · simp [h, Ne.symm h]

lemma get?_replaceAll (s : ClaimSet) (puts : List (String × Claim)) (k : String) :
    (s.replaceAll puts).2.get? k = (lastPut? k puts).or (s.get? k) := by
  induction puts generalizing s with
  | nil => rfl
  | cons e puts ih =>
    obtain ⟨k', c⟩ := e
    have hstep : (s.replaceAll ((k', c) :: puts)).2 = ((s.insert k' c).replaceAll puts).2 := rfl
    rw [hstep, ih, get?_insert, lastPut?_cons, Option.or_assoc]
    by_cases h : k = k' <;> simp [h]

/-- What an insertion replaces is what the ones before it have left there. -/
lemma getElem?_replaceAll (s : ClaimSet) (puts : List (String × Claim)) (i : ℕ) :
    (s.replaceAll puts).1[i]? =
      puts[i]?.map fun e => (lastPut? e.1 (puts.take i)).or (s.get? e.1) := by
  induction puts generalizing s i with
  | nil => rfl
  | cons e puts ih =>
    obtain ⟨k', c⟩ := e
    have hstep : (s.replaceAll ((k', c) :: puts)).1 =
        s.get? k' :: ((s.insert k' c).replaceAll puts).1 := rfl
    rw [hstep]
    cases i with
    | zero => rfl
    | succ i =>
      rw [List.getElem?_cons_succ, ih, List.getElem?_cons_succ, List.take_succ_cons]
      congr
      funext e
      rw [get?_insert, lastPut?_cons, Option.or_assoc]
      by_cases h : e.1 = k' <;> simp [h]

lemma get?_ofList (claims : List (String × Claim)) (k : String) :
    (ofList claims).get? k = lastPut? k claims := by
  have hfold (s : ClaimSet) : claims.foldl (fun s e => s.insert e.1 e.2) s =
      (s.replaceAll claims).2 := by
    induction claims generalizing s with
    | nil => rfl
    | cons e claims ih => exact ih _
  rw [ofList, hfold, get?_replaceAll]
  exact Option.or_none

/-! ### Building -/

/-- What a claim set starts as. -/
inductive Origin where
  | empty
  | collected (claims : List (String × Claim))
  | value (v : Json)
  | file (path : String)

variable (files : String → Except FileFault (List UInt8))

/-- The claims at the start, when the files are as given. -/
def Origin.claims : Origin → Except Error ClaimSet
  | .empty => .ok .empty
  | .collected claims => .ok (ofList claims)
  | .value v => Agent.claimsOfJson v
  | .file path => Loading.claimsIn files path

/-- What a key has at the start. Of claims that are collected, the last one counts. -/
def Origin.get? (k : String) : Origin → Option ClaimValue
  | .empty => none
  | .collected claims => lastPut? k claims
  | .value v => (Agent.claimsOfJson v).toOption.bind (·.get? k)
  | .file path => (Loading.claimsIn files path).toOption.bind (·.get? k)

lemma Origin.get?_claims {o : Origin} {s : ClaimSet} (h : o.claims files = .ok s) (k : String) :
    s.get? k = o.get? files k := by
  cases o with
  | empty =>
    cases h
    rfl
  | collected claims =>
    cases h
    exact get?_ofList claims k
  | value v =>
    rw [claims] at h
    rw [get?, h]
    rfl
  | file path =>
    rw [claims] at h
    rw [get?, h]
    rfl

/-- A way of building a claim set. -/
structure Build where
  origin : Origin
  puts : List (String × Claim)

namespace Build

/-- The set that is built, and what each insertion returned on the way. -/
def run (b : Build) : Except Error (List (Option ClaimValue) × ClaimSet) :=
  (b.origin.claims files).map fun s => s.replaceAll b.puts

/-- The claim that a key ends up with: the one put there last, or else the one from the start. -/
def get? (b : Build) (k : String) : Option ClaimValue :=
  (lastPut? k b.puts).or (b.origin.get? files k)

/-- The build up to its first `n` insertions. -/
def take (b : Build) (n : ℕ) : Build := ⟨b.origin, b.puts.take n⟩

variable {files}

lemma run_eq_ok {b : Build} {olds : List (Option ClaimValue)} {s : ClaimSet}
    (h : b.run files = .ok (olds, s)) :
    (∀ k, s.get? k = b.get? files k) ∧
      ∀ i, olds[i]? = b.puts[i]?.map fun e => (b.take i).get? files e.1 := by
  rw [run] at h
  cases hstart : b.origin.claims files with
  | error e =>
    rw [hstart] at h
    cases h
  | ok start =>
    rw [hstart] at h
    have hrun : start.replaceAll b.puts = (olds, s) := Except.ok.inj h
    have hget := Origin.get?_claims files hstart
    refine ⟨fun k => ?_, fun i => ?_⟩
    · rw [get?, ← hget, ← get?_replaceAll, hrun]
    · simp only [get?, take, ← hget]
      rw [← getElem?_replaceAll, hrun]

/-- **However a claim set is built, its keys increase at every depth, and it holds under each key
what was put there last**; each insertion returns what it replaces. Builds that leave the same
under every key give the same bytes to sign and the same signatures. -/
theorem canonical_of_run {b : Build} {olds : List (Option ClaimValue)} {s : ClaimSet}
    (h : b.run files = .ok (olds, s)) :
    s.Canonical ∧ (∀ k, s.get? k = b.get? files k) ∧
      (∀ i, olds[i]? = b.puts[i]?.map fun e => (b.take i).get? files e.1) ∧
      ∀ files' b' olds' t, run files' b' = .ok (olds', t) →
        (∀ k, b'.get? files' k = b.get? files k) →
        t.canonical = s.canonical ∧ ∀ key : SigningKey, key.signClaims t = key.signClaims s := by
  obtain ⟨hget, holds⟩ := run_eq_ok h
  refine ⟨s.isCanonical, hget, holds, fun files' b' olds' t ht hsame => ?_⟩
  obtain rfl : t = s := eq_of_get?_eq fun k => by rw [(run_eq_ok ht).1, hsame, hget]
  exact ⟨rfl, fun _ => rfl⟩

namespace Sample

/-- Claims that are put in one by one, one of them over an older one. -/
def overwritten : Build where
  origin := .collected [("tier", .text "gold"), ("home", .text "fr")]
  puts := [("home", (ofList [("zip", .text "10115"), ("city", .text "berlin")]).claim),
    ("active", .flag true)]

/-- The same claims, of which all but one come with a value. -/
def extended : Build where
  origin := .value (.object [("active", .bool true),
    ("home", .object [("city", .string "berlin"), ("zip", .string "10115")])])
  puts := [("tier", .text "gold")]

def built : ClaimSet :=
  .ofList [("active", .flag true),
    ("home", (ofList [("city", .text "berlin"), ("zip", .text "10115")]).claim),
    ("tier", .text "gold")]

end Sample

theorem canonical_of_run_sample :
    Sample.overwritten.run (fun _ => .error .notUtf8) =
        .ok ([some (.text "fr"), none], Sample.built) ∧
      Sample.extended.run (fun _ => .error .notUtf8) = .ok ([none], Sample.built) ∧
      Sample.built.Canonical ∧
      ∀ k, Sample.extended.get? (fun _ => .error .notUtf8) k =
        Sample.overwritten.get? (fun _ => .error .notUtf8) k := by
  have h : Sample.overwritten.run (fun _ => .error .notUtf8) =
      .ok ([some (.text "fr"), none], Sample.built) := rfl
  have h' : Sample.extended.run (fun _ => .error .notUtf8) = .ok ([none], Sample.built) := rfl
  obtain ⟨hcanonical, hget, -, -⟩ := canonical_of_run h
  obtain ⟨-, hget', -, -⟩ := canonical_of_run h'
  exact ⟨h, h', hcanonical, fun k => (hget' k).symm.trans (hget k)⟩

end Build

end ClaimSet

end Attestation
