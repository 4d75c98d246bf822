import Attestation.Policy.Engine
import Attestation.Proofs.Policy.Ordering
import Attestation.Proofs.Time.Rfc3339

/-!
The constraint on the time of evaluation.

A clock is compared with the instant that a timestamp stands for, so how the instant is spelled does
not matter. Two spellings of one instant are a clock and the same clock some minutes further ahead;
once both timestamps are written with one offset, their fields are compared from the year down.
-/

namespace Attestation

namespace Policy

open Time (Civil Instant Spells)

/-- By the clock, the constraint on time comes out as `b`, whoever is asked about what. -/
def Decides (clock : Clock) (op : Operator) (right : Json) (b : Bool) : Prop :=
  ∀ (now : Instant) (key : String) (agent : Agent) {σ : Type}
    (source : (q : Registry.Query) → σ → Registry.Answer q × σ) (s : σ),
    (((Decider.time clock).evaluate now ⟨key, op, right⟩ agent).play source s).1.value = b

variable {clock : Clock} {now t u : Instant} {op : Operator} {right : Json} {a b : String}
  {c d : Civil} {v : Bool}

lemma decides_of_ok (h : ∀ now, compareTime (clock.read now) op right = .ok v) :
    Decides clock op right v := by
  intro now key agent σ source s
  rw [Decider.evaluate, judgeTime, h now]
  rfl

lemma decides_of_error (h : ∀ now, ∃ e, compareTime (clock.read now) op right = .error e) :
    Decides clock op right false := by
  intro now key agent σ source s
  obtain ⟨e, he⟩ := h now
  rw [Decider.evaluate, judgeTime, he]
  rfl

lemma compareTime_of_parse (hop : op ∈ Operator.comparisons) (hb : Instant.parse b = .ok u)
    (now : Instant) : compareTime now op (.string b) = .ok (op.passes (now.compare u)) := by
  simp only [compareTime, Operator.test_of_mem hop, hb]
  rfl

/-- Where there is nothing to compare with, the comparison fails whatever the time is. -/
lemma compareTime_eq_error (h : op ∉ Operator.comparisons ∨
    ∀ b, right = .string b → ∀ u, Instant.parse b ≠ .ok u) (now : Instant) :
    ∃ e, compareTime now op right = .error e := by
  unfold compareTime
  by_cases hop : op ∈ Operator.comparisons
  · have hright := h.resolve_left (not_not_intro hop)
    rw [Operator.test_of_mem hop]
    cases right with
    | string b =>
      cases hb : Instant.parse b with
      | ok u => exact absurd hb (hright b rfl u)
      | error e =>
        refine ⟨e, ?_⟩
        simp only [hb]
        rfl
    | _ => exact ⟨_, rfl⟩
  · rw [Operator.test_of_not_mem hop]
    exact ⟨_, rfl⟩

lemma decides_of_parse (hop : op ∈ Operator.comparisons) (hb : Instant.parse b = .ok u) :
    Decides (.fixed t) op (.string b) (op.passes (t.compare u)) :=
  decides_of_ok fun _ => compareTime_of_parse hop hb t

lemma decides_of_refused (h : op ∉ Operator.comparisons ∨
    ∀ b, right = .string b → ∀ u, Instant.parse b ≠ .ok u) : Decides clock op right false :=
  decides_of_error fun _ => compareTime_eq_error h _

/-- What the constraint on time makes of timestamps. -/
structure ComparesInstants : Prop where
  /-- Of two accepted texts one is the earlier, or they are equal; the weak comparisons deny the
  strict ones. -/
  ordered : ∀ a b t u, Instant.parse a = .ok t → Instant.parse b = .ok u →
    ∃ holds : Operator → Bool,
      (∀ op ∈ Operator.comparisons, Decides (.fixed t) op (.string b) (holds op)) ∧
        ExactlyOne (holds .lt = true) (holds .eq = true) (holds .gt = true) ∧
          holds .leq = !holds .gt ∧ holds .geq = !holds .lt ∧ holds .neq = !holds .eq
  /-- Earlier from the one end is later from the other. -/
  turned : ∀ a b t u, Instant.parse a = .ok t → Instant.parse b = .ok u →
    ∃ v, Decides (.fixed t) .lt (.string b) v ∧ Decides (.fixed u) .gt (.string a) v
  /-- A text is accepted if it spells a time, for which it stands by its instant. -/
  accepted : ∀ a t, Instant.parse a = .ok t ↔ ∃ c, Spells a c ∧ c.instant = t
  /-- The instants are compared, -/
  instants : ∀ t b d, Spells b d → ∀ op ∈ Operator.comparisons,
    Decides (.fixed t) op (.string b) (op.passes (t.compare d.instant))
  /-- and their order is that of the fields once the one clock has been put forward to the offset of
  the other. -/
  fields : ∀ a b c d, Spells a c → Spells b d → ∃ n,
    ((Civil.ahead^[n] c).offset = d.offset ∧ ∀ op ∈ Operator.comparisons,
      Decides (.fixed c.instant) op (.string b) (op.passes ((Civil.ahead^[n] c).order d))) ∨
    (c.offset = (Civil.ahead^[n] d).offset ∧ ∀ op ∈ Operator.comparisons,
      Decides (.fixed c.instant) op (.string b) (op.passes (c.order (Civil.ahead^[n] d))))
  /-- To write either time with another offset changes nothing. -/
  rewritten : ∀ a a' b b' c c' d d', Spells a c → Spells a' c' → c.Rewritten c' →
    Spells b d → Spells b' d' → d.Rewritten d' → ∀ op, ∃ v,
      Decides (.fixed c.instant) op (.string b) v ∧ Decides (.fixed c'.instant) op (.string b') v
  /-- Only so do two texts stand for one instant. -/
  equal : ∀ a b c d, Spells a c → Spells b d → ∃ v,
    Decides (.fixed c.instant) .eq (.string b) v ∧ (v = true ↔ c.Rewritten d)
  /-- Without a comparison or a timestamp the answer is no. -/
  refused : ∀ clock op right, (op ∉ Operator.comparisons ∨
    ∀ b, right = .string b → ∀ u, Instant.parse b ≠ .ok u) → Decides clock op right false

/-- **The constraint on time compares instants, not texts.** -/
theorem comparesInstants : ComparesInstants := by
  constructor
  case ordered =>
    intro a b t u ha hb
    exact ⟨fun op => op.passes (t.compare u), fun op hop => decides_of_parse hop hb,
      Operator.exactlyOne_passes _, Operator.passes_leq _, Operator.passes_geq _,
      Operator.passes_neq _⟩
  case turned =>
    intro a b t u ha hb
    refine ⟨_, decides_of_parse (by decide) hb, ?_⟩
    rw [← Operator.passes_gt_swap, Instant.compare_swap]
    exact decides_of_parse (by decide) ha
  case accepted => exact fun a t => Instant.parse_eq_ok_iff
  case instants => exact fun t b d hd op hop => decides_of_parse hop hd.parse
  case fields =>
    intro a b c d hc hd
    rcases le_total c.offset d.offset with ho | ho
    · obtain ⟨n, hn⟩ := Civil.exists_iterate_offset hc.proper hd.proper ho
      refine ⟨n, .inl ⟨hn, fun op hop => ?_⟩⟩
      rw [← Civil.instant_compare (hc.proper.iterate n) hd.proper hn,
        Civil.instant_iterate hc.proper]
      exact decides_of_parse hop hd.parse
    · obtain ⟨n, hn⟩ := Civil.exists_iterate_offset hd.proper hc.proper ho
      refine ⟨n, .inr ⟨hn.symm, fun op hop => ?_⟩⟩
      rw [← Civil.instant_compare hc.proper (hd.proper.iterate n) hn.symm,
        Civil.instant_iterate hd.proper]
      exact decides_of_parse hop hd.parse
  case rewritten =>
    intro a a' b b' c c' d d' hc hc' hcc hd hd' hdd op
    have hinstant := (Civil.instant_eq_iff hc.proper hc'.proper).2 hcc
    have hright : d'.instant = d.instant := ((Civil.instant_eq_iff hd.proper hd'.proper).2 hdd).symm
    by_cases hop : op ∈ Operator.comparisons
    · refine ⟨_, decides_of_parse hop hd.parse, ?_⟩
      rw [← hinstant]
      exact decides_of_parse hop (hright ▸ hd'.parse)
    · exact ⟨false, decides_of_refused (.inl hop), decides_of_refused (.inl hop)⟩
  case equal =>
    intro a b c d hc hd
    refine ⟨_, decides_of_parse (by decide) hd.parse, ?_⟩
    rw [← Civil.instant_eq_iff hc.proper hd.proper, ← Instant.compare_eq_eq_iff]
    exact beq_iff_eq
  case refused => exact fun clock op right h => decides_of_refused h

end Policy

end Attestation
