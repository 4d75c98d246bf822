import Attestation.Key
import Attestation.Proofs.Claims.Json
import Attestation.Proofs.Json.Printer
import Attestation.Proofs.Text.Bytes

/-!
The signed bytes determine the claims. The other way round, sets that a registry takes for
equal have the same signed bytes exactly when their zeros carry the same signs: a zero compares
equal to its negative, but is written with its sign.
-/

namespace Attestation

open Numeral (Double)

/-! ### Zeros -/

namespace Numeral.Double

lemma rank_of_isFinite {x : Double} (hx : x.isFinite = true) :
    x.rank = some (if x.isNegative then -(x.magnitude : ℤ) else x.magnitude) := by
  have hnan : ¬ x.isNaN = true := by
    simp only [isFinite, decide_eq_true_eq] at hx
    simp only [isNaN, decide_eq_true_eq]
    omega
  rw [rank, if_neg hnan]

lemma eq_of_magnitude_eq {x y : Double} (hsign : x.isNegative = y.isNegative)
    (hmag : x.magnitude = y.magnitude) : x = y := by
  rw [← x.ofMagnitude_magnitude, hsign, hmag, y.ofMagnitude_magnitude]

/-- Finite numbers that compare equal are the same, or both are zero. -/
lemma numEq_iff {x y : Double} (hx : x.isFinite = true) (hy : y.isFinite = true) :
    x.numEq y = true ↔ (x.isZero = true ∧ y.isZero = true) ∨ x = y := by
  have hrank : x.numEq y = true ↔ (if x.isNegative then -(x.magnitude : ℤ) else x.magnitude)
      = if y.isNegative then -(y.magnitude : ℤ) else y.magnitude := by
    simp [numEq, compare, rank_of_isFinite hx, rank_of_isFinite hy]
  rw [hrank]
  simp only [isZero, beq_iff_eq]
  constructor
  · intro h
    by_cases hsign : x.isNegative = y.isNegative
    · refine .inr (eq_of_magnitude_eq hsign ?_)
      rw [hsign] at h
      split at h <;> omega
    · refine .inl ?_
      cases hxs : x.isNegative <;> cases hys : y.isNegative <;> simp [hxs, hys] at h hsign <;> omega
  · rintro (⟨h1, h2⟩ | rfl)
    · rw [h1, h2]
      split <;> split <;> rfl
    · rfl

end Numeral.Double

/-- The sign of a number, if it is a zero of binary64. -/
def Json.Number.zeroSigns : Json.Number → List Bool
  | .real x _ => if x.isZero then [x.isNegative] else []
  | _ => []

namespace Json.Number

lemma same_self (n : Json.Number) : n.same n = true := by
  cases n with
  | real x hx => exact (Double.numEq_iff hx hx).2 (.inr rfl)
  | _ => simp [same]

lemma length_zeroSigns {m n : Json.Number} (h : m.same n = true) :
    m.zeroSigns.length = n.zeroSigns.length := by
  cases m with
  | real x hx =>
    cases n with
    | real y hy =>
      rcases (Double.numEq_iff hx hy).1 h with ⟨h1, h2⟩ | rfl
      · simp [zeroSigns, h1, h2]
      · rfl
    | _ => simp [same] at h
  | _ => cases n <;> simp_all [same, zeroSigns]

lemma eq_of_zeroSigns_eq {m n : Json.Number} (h : m.same n = true)
    (hz : m.zeroSigns = n.zeroSigns) : m = n := by
  cases m with
  | real x hx =>
    cases n with
    | real y hy =>
      rcases (Double.numEq_iff hx hy).1 h with ⟨h1, h2⟩ | rfl
      · simp only [zeroSigns, h1, h2, if_true, List.cons.injEq, and_true] at hz
        simp only [Double.isZero, beq_iff_eq] at h1 h2
        obtain rfl := Double.eq_of_magnitude_eq hz (h1.trans h2.symm)
        rfl
      · rfl
    | _ => simp [same] at h
  | _ => cases n <;> simp_all [same]

end Json.Number

namespace ClaimValue

mutual

/-- The signs of the zeros of binary64 in a claim, in the order they are written. -/
def zeroSigns : ClaimValue → List Bool
  | .number n => n.zeroSigns
  | .nested members => zeroSignsMembers members
  | _ => []

def zeroSignsMembers : List (String × ClaimValue) → List Bool
  | [] => []
  | (_, v) :: rest => v.zeroSigns ++ zeroSignsMembers rest

end

lemma sameMembers_self {ms : List (String × ClaimValue)}
    (h : ∀ m ∈ ms, m.2.same m.2 = true) : sameMembers ms ms = true := by
  induction ms with
  | nil => rfl
  | cons m ms ih =>
    obtain ⟨k, v⟩ := m
    have hv := h (k, v) List.mem_cons_self
    have hms := ih fun m hm => h m (List.mem_cons_of_mem _ hm)
    simp_all [sameMembers]

lemma same_self (v : ClaimValue) : v.same v = true := by
  induction v using induction with
  | number n => exact n.same_self
  | nested ms ih => exact sameMembers_self ih
  | _ => simp [same]

/-- What it takes to tell a claim from those that compare equal to it. -/
def ZerosTell (v : ClaimValue) : Prop :=
  ∀ w, v.same w = true → v.zeroSigns.length = w.zeroSigns.length ∧
    (v.zeroSigns = w.zeroSigns → v = w)

lemma members_zerosTell {ms : List (String × ClaimValue)} (hms : ∀ m ∈ ms, m.2.ZerosTell)
    {ns : List (String × ClaimValue)} (h : sameMembers ms ns = true) :
    (zeroSignsMembers ms).length = (zeroSignsMembers ns).length ∧
      (zeroSignsMembers ms = zeroSignsMembers ns → ms = ns) := by
  induction ms generalizing ns with
  | nil =>
    cases ns with
    | nil => exact ⟨rfl, fun _ => rfl⟩
    | cons n ns => simp [sameMembers] at h
  | cons m ms ih =>
    obtain ⟨j, v⟩ := m
    cases ns with
    | nil => simp [sameMembers] at h
    | cons n ns =>
      obtain ⟨k, w⟩ := n
      simp only [sameMembers, Bool.and_eq_true, beq_iff_eq] at h
      obtain ⟨⟨rfl, hv⟩, hrest⟩ := h
      obtain ⟨hlen, heq⟩ := hms (j, v) List.mem_cons_self w hv
      obtain ⟨hlens, heqs⟩ := ih (fun m hm => hms m (List.mem_cons_of_mem _ hm)) hrest
      refine ⟨by simp [zeroSignsMembers, hlen, hlens], fun hz => ?_⟩
      obtain ⟨hz1, hz2⟩ := List.append_inj hz hlen
      have hvw : v = w := heq hz1
      rw [hvw, heqs hz2]

/-- Claims that compare equal differ in the signs of their zeros alone. -/
lemma zerosTell (v : ClaimValue) : v.ZerosTell := by
  induction v using induction with
  | number m =>
    intro w h
    cases w with
    | number n =>
      refine ⟨Json.Number.length_zeroSigns h, fun hz => ?_⟩
      rw [Json.Number.eq_of_zeroSigns_eq h hz]
    | _ => simp [same] at h
  | nested ms ih =>
    intro w h
    cases w with
    | nested ns =>
      obtain ⟨hlen, heq⟩ := members_zerosTell ih h
      refine ⟨hlen, fun hz => ?_⟩
      rw [heq hz]
    | _ => simp [same] at h
  | _ =>
    intro w h
    cases w <;> simp_all [same]

end ClaimValue

namespace ClaimSet

lemma same_self (s : ClaimSet) : s.same s = true :=
  ClaimValue.sameMembers_self fun _ _ => ClaimValue.same_self _

/-- **The signed bytes determine the claims**, which a registry then takes for equal. -/
theorem canonical_eq_iff (a b : ClaimSet) :
    a.canonical = b.canonical ↔ a = b ∧ a.same b = true := by
  constructor
  · intro h
    obtain rfl : a = b := json_injective (Json.chars_injective (Text.utf8Chars_injective h))
    exact ⟨rfl, a.same_self⟩
  · rintro ⟨rfl, -⟩
    rfl

/-- The signs of the zeros of binary64 in a claim set, in the order they are written. -/
def zeroSigns (s : ClaimSet) : List Bool := ClaimValue.zeroSignsMembers s.entries

lemma eq_of_zeroSigns_eq {a b : ClaimSet} (h : a.same b = true) (hz : a.zeroSigns = b.zeroSigns) :
    a = b := by
  have hentries := (ClaimValue.members_zerosTell (fun _ _ => ClaimValue.zerosTell _) h).2 hz
  cases a
  cases b
  cases hentries
  rfl

/-- **Sets that compare equal have the same signed bytes exactly when their zeros have the same
signs**; then no key and no signature tells them apart. -/
theorem canonical_eq_iff_of_same {a b : ClaimSet} (h : a.same b = true) :
    (a.canonical = b.canonical ↔ a.zeroSigns = b.zeroSigns) ∧
      (a.zeroSigns = b.zeroSigns →
        ∀ key s, verifySignature key s a = verifySignature key s b) := by
  refine ⟨⟨fun hbytes => ?_, fun hz => ?_⟩, fun hz key s => ?_⟩
  · rw [json_injective (Json.chars_injective (Text.utf8Chars_injective hbytes))]
  · rw [eq_of_zeroSigns_eq h hz]
  · rw [eq_of_zeroSigns_eq h hz]

theorem canonical_eq_iff_of_same_zero :
    (ofList [("x", .number (.real Double.zero rfl))]).same
        (ofList [("x", .number (.real Double.zero.neg rfl))]) = true ∧
      (ofList [("x", .number (.real Double.zero rfl))]).canonical ≠
        (ofList [("x", .number (.real Double.zero.neg rfl))]).canonical :=
  ⟨by decide, (canonical_eq_iff_of_same (by decide)).1.not.2 (by decide)⟩

theorem exists_same_and_canonical_ne :
    ∃ a b : ClaimSet, a.same b = true ∧ a.canonical ≠ b.canonical :=
  ⟨ofList [("x", .number (.real Double.zero rfl))],
    ofList [("x", .number (.real Double.zero.neg rfl))], by decide, by decide⟩

end ClaimSet

end Attestation
