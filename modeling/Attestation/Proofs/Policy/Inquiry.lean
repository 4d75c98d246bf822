import Attestation.Proofs.Policy.Honesty

/-!
What a constraint has the registry asked: one question at most, put before anything is compared.

What is asked follows from the agent and from the key and the operator of the constraint. The
right operand has no part in it, and neither have the time and the registry's answer.
-/

namespace Attestation

open Policy

namespace Policy

/-- Why a constraint on `key` is decided without a question. -/
inductive Silent (protocol : Protocol) (key : String) (op : Operator) (agent : Agent) : Prop where
  | time (h : key = evaluationTime)
  | unsupported (h : supports key op = false)
  | unnamed (h : ∀ p, ¬ agent.Presents "client_id" p)
  | unclaimed (h : ∀ claims, agent.claims ≠ .ok claims)
  | unavailable (hown : key ≠ "participant_id") {claims : ClaimSet} (h : agent.claims = .ok claims)
    (hv : ∀ v, claims.get? key = some (.text v) → Text.isBlank v = true)
  | unsigned (hbundle : protocol = .bundle) (h : ∀ s, ¬ agent.Presents "signedClaims" s)

/-- The question that bears on what `agent` says about itself under `key`. -/
inductive Question (key : String) (agent : Agent) : Protocol → Registry.Query → Prop where
  | bundle {p s : String} {claims : ClaimSet} (hp : agent.Presents "client_id" p)
    (hs : agent.Presents "signedClaims" s) (hclaims : agent.claims = .ok claims) :
    Question key agent .bundle (.bundle p s claims)
  | registration {p : String} (hown : key = "participant_id")
    (hp : agent.Presents "client_id" p) : Question key agent .perKey (.fetch p)
  | claim {p v : String} {claims : ClaimSet} (hown : key ≠ "participant_id")
    (hp : agent.Presents "client_id" p) (hclaims : agent.claims = .ok claims)
    (hget : claims.get? key = some (.text v)) (hv : Text.isBlank v = false) :
    Question key agent .perKey (.byKey key v p)

/-- Whatever the right operand, the time and the registry, the standard engine asks exactly
`questions` about the claim that `left` names. -/
def AlwaysAsks (protocol : Protocol) (left : String) (op : Operator) (agent : Agent)
    (questions : List Registry.Query) : Prop :=
  ∀ (right : Json) (clock : Clock) (now : Time.Instant) (σ : Type)
    (source : (q : Registry.Query) → σ → Registry.Answer q × σ) (s : σ),
    (((Engine.standard protocol clock).evaluate now ⟨left, op, right⟩ agent).play source
      s).1.asked = questions

section Asked

variable {σ : Type} {source : (q : Registry.Query) → σ → Registry.Answer q × σ} {s : σ}

lemma asked_settle (report : Error → Warning) (x : Except Error Bool) :
    ((settle report x).play source s).1.asked = [] := by
  cases x <;> rfl

/-- A judgement asks the question of its assertion, if there is an assertion at all. -/
lemma asked_judge (report : Error → Warning) (compare : String → Except Error Bool)
    (x : Except Error Assertion) : ((judge report compare x).play source s).1.asked =
      (x.toOption.map Assertion.query).toList := by
  cases x with
  | error e => exact asked_settle report (.error e)
  | ok a =>
    simp only [judge, Dialogue.play, asked_settle]
    rfl

/-- The question of an assertion that may be made, where the operator is supported. -/
def question? (protocol : Protocol) (key : String) (op : Operator) (agent : Agent) :
    Option Registry.Query :=
  if key = evaluationTime ∨ supports key op = false then none
  else (assertionOf protocol agent key (key == "participant_id")).toOption.map Assertion.query

/-- The standard engine asks the one question of the assertion, or nothing. -/
lemma asked_standard (protocol : Protocol) (clock : Clock) (now : Time.Instant) (c : Constraint)
    (agent : Agent) :
    (((Engine.standard protocol clock).evaluate now c agent).play source s).1.asked =
      (question? protocol c.key c.operator agent).toList := by
  rw [evaluate_standard_eq, question?]
  by_cases htime : c.key = evaluationTime
  · rw [if_pos htime, if_pos (.inl htime)]
    exact asked_settle _ _
  · rw [if_neg htime, asked_judge, assertion?]
    cases supports c.key c.operator <;> simp [htime, Except.toOption]

end Asked

/-! ### When there is a question, and which -/

variable {protocol : Protocol} {key : String} {op : Operator} {agent : Agent} {own : Bool}

lemma subject?_eq_some_iff {p v : String} {claims : ClaimSet} :
    subject? key p claims = some v ↔
      (key = "participant_id" ∧ p = v) ∨
        (key ≠ "participant_id" ∧ claims.get? key = some (.text v) ∧ Text.isBlank v = false) := by
  rw [subject?, ← ClaimSet.text?_eq_some_iff]
  change (if key = "participant_id" then some p else claims.text? key) = some v ↔ _
  by_cases hown : key = "participant_id" <;> simp [hown]

/-- An assertion is made of what the agent presents, and its question bears on that. -/
lemma query_assertionOf_iff (hown : own = true ↔ key = "participant_id") {q : Registry.Query} :
    (assertionOf protocol agent key own).toOption.map Assertion.query = some q ↔
      ∃ p claims v, agent.Presents "client_id" p ∧ agent.claims = .ok claims ∧
        subject? key p claims = some v ∧
        corroboration protocol agent ⟨p, claims⟩ key v own = .ok q := by
  have hquery : (assertionOf protocol agent key own).toOption.map Assertion.query = some q ↔
      ∃ a, assertionOf protocol agent key own = .ok a ∧ a.query = q := by
    cases assertionOf protocol agent key own <;> simp [Except.toOption]
  rw [hquery]
  simp only [assertionOf, Except.bind_eq_ok_iff, requester_eq_ok_iff,
    assertedValue_eq_ok_iff hown, Agent.clientId_eq_ok_iff]
  constructor
  · rintro ⟨a, ⟨⟨p, claims⟩, ⟨hp, hclaims⟩, v, hv, q, hq, h⟩, rfl⟩
    cases h
    exact ⟨p, claims, v, hp, hclaims, hv, hq⟩
  · rintro ⟨p, claims, v, hp, hclaims, hv, hq⟩
    exact ⟨_, ⟨⟨p, claims⟩, ⟨hp, hclaims⟩, v, hv, q, hq, rfl⟩, rfl⟩

lemma corroboration_bundle_iff {r : Requester} {v : String} {q : Registry.Query} :
    corroboration .bundle agent r key v own = .ok q ↔
      ∃ s, agent.Presents "signedClaims" s ∧ q = .bundle r.participant s r.claims := by
  simp only [corroboration, Agent.signedClaims?, ← Agent.text?_eq_some_iff]
  cases agent.text? "signedClaims" <;> simp [eq_comm]

lemma corroboration_perKey_iff {r : Requester} {v : String} {q : Registry.Query} :
    corroboration .perKey agent r key v own = .ok q ↔
      q = if own then .fetch r.participant else .byKey key v r.participant := by
  simp [corroboration, eq_comm]

lemma question?_eq_some_iff {q : Registry.Query} : question? protocol key op agent = some q ↔
    key ≠ evaluationTime ∧ supports key op = true ∧
      ∃ p claims v, agent.Presents "client_id" p ∧ agent.claims = .ok claims ∧
        subject? key p claims = some v ∧
        corroboration protocol agent ⟨p, claims⟩ key v (key == "participant_id") = .ok q := by
  rw [question?, ← query_assertionOf_iff beq_iff_eq]
  by_cases htime : key = evaluationTime <;> cases supports key op <;> simp [htime]

/-- A question that is put bears on what the agent presents, and nothing kept it back. -/
lemma question_of_eq_some {q : Registry.Query} (h : question? protocol key op agent = some q) :
    Question key agent protocol q := by
  obtain ⟨-, -, p, claims, v, hp, hclaims, hv, hq⟩ := question?_eq_some_iff.1 h
  cases protocol with
  | bundle =>
    obtain ⟨s, hs, rfl⟩ := corroboration_bundle_iff.1 hq
    exact .bundle hp hs hclaims
  | perKey =>
    rw [corroboration_perKey_iff] at hq
    rcases subject?_eq_some_iff.1 hv with ⟨hown, -⟩ | ⟨hown, hget, hblank⟩
    · rw [if_pos (beq_iff_eq.2 hown)] at hq
      exact hq ▸ .registration hown hp
    · rw [if_neg (by simpa using hown)] at hq
      exact hq ▸ .claim hown hp hclaims hget hblank

/-- Nothing is asked exactly for one of the reasons to be silent. -/
lemma question?_eq_none_iff :
    question? protocol key op agent = none ↔ Silent protocol key op agent := by
  constructor
  · intro h
    by_contra hsilent
    have htime : key ≠ evaluationTime := fun h => hsilent (.time h)
    have hop : supports key op = true := by
      rw [← Bool.not_eq_false]
      exact fun h => hsilent (.unsupported h)
    obtain ⟨p, hp⟩ : ∃ p, agent.Presents "client_id" p := by
      by_contra hp
      exact hsilent (.unnamed (not_exists.1 hp))
    obtain ⟨claims, hclaims⟩ : ∃ claims, agent.claims = .ok claims := by
      by_contra hclaims
      exact hsilent (.unclaimed (not_exists.1 hclaims))
    obtain ⟨v, hv⟩ : ∃ v, subject? key p claims = some v := by
      by_contra hv
      simp only [subject?_eq_some_iff, not_exists, not_or, not_and] at hv
      have hown : key ≠ "participant_id" := fun hown => (hv p).1 hown rfl
      refine hsilent (.unavailable hown hclaims fun v hget => ?_)
      rw [← Bool.not_eq_false]
      exact (hv v).2 hown hget
    obtain ⟨q, hq⟩ : ∃ q, corroboration protocol agent ⟨p, claims⟩ key v
        (key == "participant_id") = .ok q := by
      cases protocol with
      | bundle =>
        obtain ⟨s, hs⟩ : ∃ s, agent.Presents "signedClaims" s := by
          by_contra hs
          exact hsilent (.unsigned rfl (not_exists.1 hs))
        exact ⟨_, corroboration_bundle_iff.2 ⟨s, hs, rfl⟩⟩
      | perKey => exact ⟨_, corroboration_perKey_iff.2 rfl⟩
    have hsome := question?_eq_some_iff.2 ⟨htime, hop, p, claims, v, hp, hclaims, hv, hq⟩
    rw [h] at hsome
    cases hsome
  · intro hsilent
    rw [Option.eq_none_iff_forall_ne_some]
    intro q h
    obtain ⟨htime, hop, p, claims, v, hp, hclaims, hv, hq⟩ := question?_eq_some_iff.1 h
    cases hsilent with
    | time h => exact htime h
    | unsupported h => exact absurd hop (by simp [h])
    | unnamed h => exact h p hp
    | unclaimed h => exact h claims hclaims
    | unavailable hown h hblank =>
      obtain rfl := Except.ok.inj (hclaims.symm.trans h)
      rcases subject?_eq_some_iff.1 hv with ⟨h, -⟩ | ⟨-, hget, hv⟩
      · exact hown h
      · exact absurd (hblank v hget) (by simp [hv])
    | unsigned hbundle hunsigned =>
      subst hbundle
      obtain ⟨s, hs, -⟩ := corroboration_bundle_iff.1 hq
      exact hunsigned s hs

/-- **Each evaluation asks at most once, and about the right thing.** Either there is a reason to
be silent and nothing is asked, or there is none and exactly one question is put, which follows
from what the agent presents. The right operand, the time and the answers make no difference. -/
theorem asks_once (protocol : Protocol) (left : String) (op : Operator) (agent : Agent) :
    (Silent protocol (claimKey left) op agent ∧ AlwaysAsks protocol left op agent []) ∨
      (¬ Silent protocol (claimKey left) op agent ∧
        ∃ q, Question (claimKey left) agent protocol q ∧
          AlwaysAsks protocol left op agent [q]) := by
  have hasked : AlwaysAsks protocol left op agent
      (question? protocol (claimKey left) op agent).toList :=
    fun right clock now σ source s => asked_standard protocol clock now ⟨left, op, right⟩ agent
  rw [← question?_eq_none_iff]
  cases hq : question? protocol (claimKey left) op agent with
  | none =>
    rw [hq] at hasked
    exact .inl ⟨rfl, hasked⟩
  | some q =>
    rw [hq] at hasked
    exact .inr ⟨Option.some_ne_none q, q, question_of_eq_some hq, hasked⟩

example : AlwaysAsks .perKey "ns/location" .eq
    (.ofIdentity "alice" (ClaimSet.ofList [("location", .text "eu")]) "")
    [.byKey "location" "eu" "alice"] := by
  intro right clock now σ source s
  have hkey : claimKey "ns/location" = "location" := by decide
  have hq : question? .perKey (claimKey "ns/location") .eq
      (.ofIdentity "alice" (ClaimSet.ofList [("location", .text "eu")]) "") =
        some (.byKey "location" "eu" "alice") := by
    rw [hkey]
    exact question?_eq_some_iff.2 ⟨by decide, by decide, "alice", _, "eu",
      Agent.clientId_eq_ok_iff.1 (Agent.clientId_ofIdentity (by decide)),
      Agent.claims_ofIdentity, by decide, rfl⟩
  exact (asked_standard _ _ _ _ _).trans (congrArg Option.toList hq)

end Policy

end Attestation
