import Attestation.Proofs.Policy.Verdict
import Attestation.Proofs.Registry.Caching

/-!
Against a registry that does not change its mind, neither a client's cache nor the order of the
constraints makes a difference to a verdict by key.

Whatever was evaluated before, the cache holds only values that the registry still has
registered, so it answers as a fetch would; and as no evaluation then depends on what was asked
before it, all constraints hold exactly if each of them does by itself.
-/

namespace Attestation

open Policy

/-! ### What is asked by key -/

/-- A question about a participant's registered claims, and not about a signed claim set. -/
def Registry.Query.ByKey : Registry.Query → Prop
  | .bundle _ _ _ => False
  | _ => True

namespace Policy

lemma byKey_of_assertionOf {agent : Agent} {key : String} {own : Bool} {a : Assertion}
    (h : assertionOf .perKey agent key own = .ok a) : a.query.ByKey := by
  unfold assertionOf at h
  simp only [Except.bind_eq_ok_iff] at h
  obtain ⟨r, -, v, -, q, hq, h⟩ := h
  cases h
  cases own <;> cases hq <;> trivial

lemma asks_settle {P : Registry.Query → Prop} (report : Error → Warning) (x : Except Error Bool) :
    (settle report x).Asks P := by
  cases x <;> trivial

lemma asks_judge_assertionOf {report : Error → Warning} {compare : String → Except Error Bool}
    {allowed own : Bool} {agent : Agent} {key : String} {e : Error} :
    (judge report compare (if allowed then assertionOf .perKey agent key own
      else .error e)).Asks Registry.Query.ByKey := by
  cases allowed with
  | false => exact asks_settle report (.error e)
  | true =>
    rw [if_pos rfl]
    cases h : assertionOf .perKey agent key own with
    | error e => exact asks_settle report (.error e)
    | ok a => exact ⟨byKey_of_assertionOf h, fun _ => asks_settle report _⟩

end Policy

namespace Engine

variable {e : Engine} {now : Time.Instant} {agent : Agent}

/-- The standard engine by key asks about registered claims only. -/
lemma asks_standard (clock : Clock) (now : Time.Instant) (c : Constraint) (agent : Agent) :
    ((standard .perKey clock).evaluate now c agent).Asks Registry.Query.ByKey := by
  rw [evaluate_standard_eq]
  split_ifs
  · exact asks_settle _ _
  · exact asks_judge_assertionOf

/-- With a fixed clock it makes no difference when a constraint is decided. -/
lemma evaluate_fixed (protocol : Protocol) (t now now' : Time.Instant) (c : Constraint)
    (agent : Agent) : (standard protocol (.fixed t)).evaluate now c agent =
      (standard protocol (.fixed t)).evaluate now' c agent := by
  rw [evaluate_standard_eq, evaluate_standard_eq]
  rfl

/-- Where each constraint comes out the same as long as an invariant holds that every answer
keeps, all of them hold exactly if each does. -/
lemma value_evaluateAll {σ : Type} {source : (q : Registry.Query) → σ → Registry.Answer q × σ}
    {I : σ → Prop} (hI : ∀ q s, I s → I (source q s).2) {verdict : Constraint → Bool}
    (h : ∀ c s, I s → ((e.evaluate now c agent).play source s).1.value = verdict c)
    (constraints : List Constraint) {s : σ} (hs : I s) :
    ((e.evaluateAll now agent constraints).play source s).1.value = constraints.all verdict := by
  induction constraints generalizing s with
  | nil => rfl
  | cons c rest ih =>
    rw [evaluateAll, Dialogue.value_play_bind, h c s hs, List.all_cons]
    cases verdict c with
    | true => exact ih (Dialogue.state_play hI _ hs)
    | false => rfl

end Engine

/-- Constraints to be decided for an agent, all of them. -/
structure Evaluation where
  engine : Engine
  now : Time.Instant
  agent : Agent
  constraints : List Constraint

namespace Evaluation

/-- An evaluation by the standard engine by key, with its clock at `t`. -/
def byKey (t now : Time.Instant) (agent : Agent) (constraints : List Constraint) : Evaluation :=
  ⟨.standard .perKey (.fixed t), now, agent, constraints⟩

def consultation (e : Evaluation) : Consultation Bool :=
  e.engine.evaluateAll e.now e.agent e.constraints

end Evaluation

namespace Registry.Client

/-! ### A registry that does not change -/

variable {σ : Type} {c : Client} {source : Request → σ → Reply × σ}

/-- What a fetch gives of a participant is always the same. -/
def Stable (c : Client) (source : Request → σ → Reply × σ) : Prop :=
  ∀ id s s', outcome source s (c.fetch id) = outcome source s' (c.fetch id)

/-- All that is kept is registered. -/
def Sound (c : Client) (source : Request → σ → Reply × σ) (cache : Cache) : Prop :=
  ∀ id key v, cache.lookup id key = some v → ∀ s, outcome source s (c.confirm key v id) = true

def uncached (c : Client) : Client := { c with caching := false }

/-- The client and the registry as one source of answers, with the cache and the state of the
registry. -/
abbrev respond (c : Client) (source : Request → σ → Reply × σ) :
    (q : Query) → Cache × σ → Answer q × (Cache × σ) :=
  Dialogue.handled c.answer source

/-- What comes of an evaluation, with the cache and the state of the registry that it leaves. -/
def evaluate (c : Client) (source : Request → σ → Reply × σ) (e : Evaluation) (x : Cache × σ) :
    Bool × (Cache × σ) :=
  let p := (e.consultation.interpret c.answer x.1).play source x.2
  (p.1.value.1, p.1.value.2.2, p.2)

/-- The cache and the state of the registry after evaluations. -/
def after (c : Client) (source : Request → σ → Reply × σ) (history : List Evaluation)
    (x : Cache × σ) : Cache × σ :=
  history.foldl (fun x e => (c.evaluate source e x).2) x

lemma evaluate_eq (e : Evaluation) (x : Cache × σ) : c.evaluate source e x =
    ((e.consultation.play (c.respond source) x).1.value,
      (e.consultation.play (c.respond source) x).2) := by
  obtain ⟨hvalue, hstate⟩ := Dialogue.play_interpret c.answer source e.consultation x.1 x.2
  simp only [evaluate, hvalue, hstate]

lemma Stable.uncached (h : c.Stable source) : c.uncached.Stable source := by
  intro id s s'
  exact h id s s'

lemma Stable.confirm (h : c.Stable source) (key asserted id : String) (s s' : σ) :
    outcome source s (c.confirm key asserted id) =
      outcome source s' (c.confirm key asserted id) := by
  rw [Bool.eq_iff_iff, outcome_confirm, outcome_confirm, h id s s']

lemma outcome_confirmCached_eq (key asserted id : String) (cache : Cache) (s : σ) :
    outcome source s (c.confirmCached key asserted id cache) =
      if c.caching && cache.lookup id key == some asserted then (true, cache)
      else
        let b := outcome source s (c.confirm key asserted id)
        (b, if c.caching && b then cache.insert id key asserted else cache) := by
  unfold confirmCached
  split
  · rfl
  · rw [outcome_bind_done]

lemma sound_nil : c.Sound source [] := by
  intro id key v h
  cases h

/-- Only what the registry confirms is kept, so all that is kept stays registered. -/
lemma Stable.sound_respond (h : c.Stable source) (q : Query) (x : Cache × σ)
    (hx : c.Sound source x.1) : c.Sound source (c.respond source q x).2.1 := by
  change c.Sound source (outcome source x.2 (c.answer q x.1)).2
  cases q with
  | bundle id signature claims =>
    rw [answer, outcome_bind_done]
    exact hx
  | fetch id =>
    rw [answer, outcome_bind_done]
    exact hx
  | byKey key asserted id =>
    rw [answer, outcome_confirmCached_eq]
    split_ifs with hit
    · exact hx
    · dsimp only
      split_ifs with hconfirmed
      · intro id' key' v hv s
        rw [Cache.lookup_insert] at hv
        split_ifs at hv with hsame
        · obtain ⟨rfl, rfl⟩ := hsame
          cases hv
          rw [h.confirm _ _ _ s x.2]
          exact (Bool.and_eq_true_iff.1 hconfirmed).2
        · exact hx id' key' v hv s
      · exact hx

/-- **A sound cache answers as the registry does**: what is asked by key is answered as without
it. -/
lemma Stable.respond_eq (h : c.Stable source) {q : Query} (hq : q.ByKey) {x : Cache × σ}
    (hx : c.Sound source x.1) (y : Cache × σ) :
    (c.respond source q x).1 = (c.uncached.respond source q y).1 := by
  change (outcome source x.2 (c.answer q x.1)).1 = (outcome source y.2 (c.uncached.answer q y.1)).1
  cases q with
  | bundle id signature claims => exact hq.elim
  | fetch id =>
    rw [answer, answer, outcome_bind_done, outcome_bind_done]
    exact h id x.2 y.2
  | byKey key asserted id =>
    rw [answer, answer, outcome_confirmCached (c := c.uncached) rfl, outcome_confirmCached_eq]
    split_ifs with hit
    · have hkept : x.1.lookup id key = some asserted := by
        simpa using (Bool.and_eq_true_iff.1 hit).2
      exact (hx id key asserted hkept y.2).symm
    · exact h.confirm key asserted id x.2 y.2

lemma Stable.sound_evaluate (h : c.Stable source) (e : Evaluation) {x : Cache × σ}
    (hx : c.Sound source x.1) : c.Sound source (c.evaluate source e x).2.1 := by
  rw [evaluate_eq]
  exact Dialogue.state_play (I := fun y : Cache × σ => c.Sound source y.1) h.sound_respond _ hx

lemma Stable.sound_after (h : c.Stable source) (history : List Evaluation) {x : Cache × σ}
    (hx : c.Sound source x.1) : c.Sound source (c.after source history x).1 := by
  induction history generalizing x with
  | nil => exact hx
  | cons e rest ih => exact ih (h.sound_evaluate e hx)

/-- What becomes of one constraint without a cache and a past. -/
def freshVerdict (c : Client) (source : Request → σ → Reply × σ) (s : σ) (t : Time.Instant)
    (agent : Agent) (k : Constraint) : Bool :=
  (((Engine.standard .perKey (.fixed t)).evaluate t k agent).play (c.uncached.respond source)
    ([], s)).1.value

lemma freshVerdict_uncached : c.uncached.freshVerdict source = c.freshVerdict source := by
  have hsame : c.uncached.uncached = c.uncached := rfl
  unfold freshVerdict
  rw [hsame]

/-- All constraints hold exactly if each does by itself. -/
lemma Stable.evaluate_eq_all (h : c.Stable source) (s : σ) (t now : Time.Instant) (agent : Agent)
    (constraints : List Constraint) {x : Cache × σ} (hx : c.Sound source x.1) :
    (c.evaluate source (.byKey t now agent constraints) x).1 =
      constraints.all (c.freshVerdict source s t agent) := by
  rw [evaluate_eq]
  dsimp only [Evaluation.consultation, Evaluation.byKey]
  refine Engine.value_evaluateAll (I := fun y : Cache × σ => c.Sound source y.1) h.sound_respond
    (fun k y hy => ?_) constraints hx
  have hasks := Engine.asks_standard (.fixed t) now k agent
  rw [freshVerdict, Engine.evaluate_fixed .perKey t t now]
  exact Dialogue.value_play_congr h.sound_respond
    (fun q y y' hq hy => h.respond_eq hq hy y') hasks hy _

/-- **Caching and order are invisible under a stable registry.** Whatever was evaluated before
and by whomever, a client comes to the same verdict by key as one that keeps nothing, and to the
same on every list of the same constraints, in any order and with repetitions. -/
theorem evaluate_eq_of_stable (h : c.Stable source) (t now : Time.Instant) (agent : Agent)
    (constraints : List Constraint) (history : List Evaluation) (s : σ) :
    (∀ s', (c.evaluate source (.byKey t now agent constraints)
        (c.after source history ([], s))).1 =
      (c.uncached.evaluate source (.byKey t now agent constraints) ([], s')).1) ∧
    ∀ other, (∀ k, k ∈ other ↔ k ∈ constraints) →
      (c.evaluate source (.byKey t now agent other) (c.after source history ([], s))).1 =
        (c.evaluate source (.byKey t now agent constraints)
          (c.after source history ([], s))).1 := by
  have hx : c.Sound source (c.after source history ([], s)).1 := h.sound_after history sound_nil
  refine ⟨fun s' => ?_, fun other hother => ?_⟩
  · rw [h.evaluate_eq_all s t now agent constraints hx,
      h.uncached.evaluate_eq_all s t now agent constraints sound_nil, freshVerdict_uncached]
  · rw [h.evaluate_eq_all s t now agent constraints hx, h.evaluate_eq_all s t now agent other hx,
      Bool.eq_iff_iff, List.all_eq_true, List.all_eq_true]
    simp only [hother]

namespace Sample

def agent (id : String) : Agent := .ofIdentity id claims ""

def onLocation : Constraint := ⟨"ns/location", .eq, .string "eu"⟩

def onName : Constraint := ⟨"ns/participant_id", .eq, .string "alice"⟩

def history : List Evaluation :=
  [.byKey ⟨0, 0⟩ ⟨0, 0⟩ (agent "alice") [onLocation],
    .byKey ⟨0, 0⟩ ⟨0, 0⟩ (agent "bob") [onLocation, onName]]

end Sample

/-- Alice is found to be alice in the EU in any order, after bob was found to be someone else. -/
theorem evaluate_eq_of_stable_sample :
    Sample.caching.Stable Sample.source ∧
      ∃ x, Sample.caching.after Sample.source Sample.history ([], ()) = x ∧ x.1.length = 2 ∧
        (Sample.caching.evaluate Sample.source (.byKey ⟨0, 0⟩ ⟨0, 0⟩ (Sample.agent "alice")
          [Sample.onLocation, Sample.onName]) x).1 = true ∧
        (Sample.caching.evaluate Sample.source (.byKey ⟨0, 0⟩ ⟨0, 0⟩ (Sample.agent "alice")
          [Sample.onName, Sample.onName, Sample.onLocation]) x).1 = true := by
  have hstable : Sample.caching.Stable Sample.source := fun _ _ _ => rfl
  obtain ⟨hcache, horder⟩ := evaluate_eq_of_stable hstable ⟨0, 0⟩ ⟨0, 0⟩ (Sample.agent "alice")
    [Sample.onLocation, Sample.onName] Sample.history ()
  have hfresh : (Sample.caching.uncached.evaluate Sample.source (.byKey ⟨0, 0⟩ ⟨0, 0⟩
      (Sample.agent "alice") [Sample.onLocation, Sample.onName]) ([], ())).1 = true := by
    decide +kernel
  have hlength : (Sample.caching.after Sample.source Sample.history ([], ())).1.length = 2 := by
    decide +kernel
  have hall := (hcache ()).trans hfresh
  have hsame : ∀ k, k ∈ [Sample.onName, Sample.onName, Sample.onLocation] ↔
      k ∈ [Sample.onLocation, Sample.onName] := by
    intro k
    simp only [List.mem_cons, List.not_mem_nil, or_false]
    rw [or_self_left, or_comm]
  exact ⟨hstable, _, rfl, hlength, hall, (horder _ hsame).trans hall⟩

end Registry.Client

end Attestation
