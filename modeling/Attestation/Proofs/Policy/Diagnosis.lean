import Attestation.Proofs.Policy.Inquiry
import Attestation.Registry.Client

/-!
What is reported of an evaluation fits its outcome.

A constraint that is compared, whether it holds or not, is decided without a warning. One that
is given up at an error is not satisfied: the last warning names the claim, the operator and the
error, and before it stands at most one warning of the registry, which keeps silent about
everything that it corroborates.
-/

namespace Attestation

open Policy

namespace Warning

/-- Given by a registry or its client. -/
def FromRegistry (w : Warning) : Prop :=
  w.message = "registry lookup failed" ∨ w.message = "registry bundle verification failed"

/-- The report that the constraint `c` was given up because of `e`. -/
structure Reports (w : Warning) (c : Constraint) (e : Error) : Prop where
  message : w.message =
    if c.key = evaluationTime then "time constraint not satisfied" else "constraint not satisfied"
  claimKey : ("claim_key", c.key) ∈ w.fields
  operator : ("operator", c.operator.name) ∈ w.fields
  error : ("error", e.message) ∈ w.fields

end Warning

/-! ### Stages of an evaluation -/

namespace Policy

/-- The constraint `c` is on a claim, its operator is supported, and the agent `p` with `claims`
has the value `v` to be compared. -/
structure Asserts (c : Constraint) (agent : Agent) (p : String) (claims : ClaimSet) (v : String) :
    Prop where
  claimKey : c.key ≠ evaluationTime
  supported : supports c.key c.operator = true
  named : agent.Presents "client_id" p
  claimed : agent.claims = .ok claims
  subject : subject? c.key p claims = some v

/-- What is put before the registry: that `p` with `claims` has the value `v` under the key. -/
def asserted (c : Constraint) (p : String) (claims : ClaimSet) (v : String) (q : Registry.Query) :
    Assertion :=
  ⟨⟨p, claims⟩, c.key, v, q⟩

variable (protocol : Protocol) (clock : Clock) (now : Time.Instant) (c : Constraint)
  (agent : Agent) (reply : (q : Registry.Query) → Registry.Answer q)

/-- The question `q` is put to the registry. -/
def Puts (p : String) (claims : ClaimSet) (v : String) (q : Registry.Query) : Prop :=
  corroboration protocol agent ⟨p, claims⟩ c.key v (c.key == "participant_id") = .ok q

/-- The evaluation gets as far as the comparison, which comes to `b`. -/
inductive Compares (b : Bool) : Prop where
  | time (hkey : c.key = evaluationTime)
    (h : compareTime (clock.read now) c.operator c.right = .ok b)
  | claim {p v : String} {claims : ClaimSet} {q : Registry.Query}
    (hv : Asserts c agent p claims v) (hq : Puts protocol c agent p claims v q)
    (hreply : corroborated (asserted c p claims v q) q (reply q) = .ok ())
    (h : comparison c.key c.operator v c.right = .ok b)

/-- The evaluation stops with the error `e`, at the first stage that fails. -/
inductive Stops : Error → Prop where
  | time {e : Error} (hkey : c.key = evaluationTime)
    (h : compareTime (clock.read now) c.operator c.right = .error e) : Stops e
  | unsupported (hkey : c.key ≠ evaluationTime) (h : supports c.key c.operator = false) :
    Stops (.unsupportedOperator c.key c.operator.name)
  | unnamed (hkey : c.key ≠ evaluationTime) (hop : supports c.key c.operator = true)
    (h : ∀ p, ¬ agent.Presents "client_id" p) : Stops (.missingAttribute "client_id")
  | unclaimed {p : String} {e : Error} (hkey : c.key ≠ evaluationTime)
    (hop : supports c.key c.operator = true) (hp : agent.Presents "client_id" p)
    (h : agent.claims = .error e) : Stops e
  | unavailable {p : String} {claims : ClaimSet} (hkey : c.key ≠ evaluationTime)
    (hop : supports c.key c.operator = true) (hp : agent.Presents "client_id" p)
    (hclaims : agent.claims = .ok claims) (h : subject? c.key p claims = none) :
    Stops (.claimUnavailable c.key)
  | unsigned {p v : String} {claims : ClaimSet} (hv : Asserts c agent p claims v)
    (hbundle : protocol = .bundle) (h : ∀ s, ¬ agent.Presents "signedClaims" s) :
    Stops (.missingAttribute "signedClaims")
  | uncorroborated {p v : String} {claims : ClaimSet} {q : Registry.Query} {e : Error}
    (hv : Asserts c agent p claims v) (hq : Puts protocol c agent p claims v q)
    (h : corroborated (asserted c p claims v q) q (reply q) = .error e) : Stops e
  | incomparable {p v : String} {claims : ClaimSet} {q : Registry.Query} {e : Error}
    (hv : Asserts c agent p claims v) (hq : Puts protocol c agent p claims v q)
    (hreply : corroborated (asserted c p claims v q) q (reply q) = .ok ())
    (h : comparison c.key c.operator v c.right = .error e) : Stops e

/-- The answer and the warnings of an evaluation fit how far it got. -/
def Diagnosed (answer : Bool) (warnings : List Warning) : Prop :=
  (Compares protocol clock now c agent reply answer ∧ warnings = []) ∨
    (answer = false ∧ ∃ e early w, Stops protocol clock now c agent reply e ∧
      warnings = early ++ [w] ∧ w.Reports c e ∧
      early.length ≤ 1 ∧ ∀ w ∈ early, w.FromRegistry)

end Policy

/-! ### Evaluations up to their report -/

namespace Registry

/-- What a registry answers to a question, with the warnings it gives on the way. -/
structure Statement (q : Query) where
  answer : Answer q
  warnings : List Warning

/-- At most one warning is given, and none with an answer that corroborates. -/
structure Statement.Candid {q : Query} (x : Statement q) : Prop where
  length_le : x.warnings.length ≤ 1
  fromRegistry : ∀ w ∈ x.warnings, w.FromRegistry
  eq_nil : ∀ a, corroborated a q x.answer = .ok () → x.warnings = []

end Registry

namespace Policy

open Registry (Statement)

/-- What a judgement comes to before it is reported. -/
def conclusion (told : (q : Registry.Query) → Statement q) (compare : String → Except Error Bool) :
    Except Error Assertion → Except Error Bool
  | .error e => .error e
  | .ok a => do
    corroborated a a.query (told a.query).answer
    compare a.value

/-- The warnings of the registry in a judgement. -/
def heard (told : (q : Registry.Query) → Statement q) : Except Error Assertion → List Warning
  | .error _ => []
  | .ok a => (told a.query).warnings

lemma conclusion_asserted (told : (q : Registry.Query) → Statement q)
    (compare : String → Except Error Bool) (c : Constraint) (p : String) (claims : ClaimSet)
    (v : String) (q : Registry.Query) : conclusion told compare (.ok (asserted c p claims v q)) =
      corroborated (asserted c p claims v q) q (told q).answer >>= fun _ => compare v := rfl

lemma heard_asserted (told : (q : Registry.Query) → Statement q) (c : Constraint) (p : String)
    (claims : ClaimSet) (v : String) (q : Registry.Query) :
    heard told (.ok (asserted c p claims v q)) = (told q).warnings := rfl

/-- The answer to a constraint: an error counts as no. -/
def settled : Except Error Bool → Bool
  | .ok b => b
  | .error _ => false

/-- The report of an error, if there is one. -/
def complaint (report : Error → Warning) : Except Error Bool → List Warning
  | .ok _ => []
  | .error e => [report e]

section Play

variable {Q σ τ : Type} {A : Q → Type}
  (handle : (q : Registry.Query) → σ → Dialogue Q A (Registry.Answer q × σ))
  (source : (q : Q) → τ → A q × τ)

/-- What a registry in the state `s` answers to a question when those that it asks in turn are in
the state `t`. -/
def statement (s : σ) (t : τ) (q : Registry.Query) : Statement q :=
  let p := ((handle q s).play source t).1
  ⟨p.value.1, p.warnings⟩

lemma play_settle (report : Error → Warning) (x : Except Error Bool) (s : σ) (t : τ) :
    let p := (((settle report x).interpret handle s).play source t).1
    p.value.1 = settled x ∧ p.warnings = complaint report x := by
  cases x <;> exact ⟨rfl, rfl⟩

lemma play_judge (report : Error → Warning) (compare : String → Except Error Bool)
    (x : Except Error Assertion) (s : σ) (t : τ) :
    let told := statement handle source s t
    let p := (((judge report compare x).interpret handle s).play source t).1
    p.value.1 = settled (conclusion told compare x) ∧
      p.warnings = heard told x ++ complaint report (conclusion told compare x) := by
  cases x with
  | error e => exact ⟨rfl, rfl⟩
  | ok a =>
    simp only [judge, Dialogue.interpret, Dialogue.play_bind, Dialogue.play, List.append_nil]
    obtain ⟨hvalue, hwarnings⟩ := play_settle handle source report
      (conclusion (statement handle source s t) compare (.ok a))
      ((handle a.query s).play source t).1.value.2 ((handle a.query s).play source t).2
    exact ⟨hvalue, congrArg (heard (statement handle source s t) (.ok a) ++ ·) hwarnings⟩

end Play

/-! ### How far an evaluation gets -/

section Stages

variable {protocol : Protocol} {clock : Clock} {now : Time.Instant} {c : Constraint}
  {agent : Agent}

lemma clientId_eq_error {e : Error} (h : agent.clientId = .error e) :
    e = .missingAttribute "client_id" ∧ ∀ p, ¬ agent.Presents "client_id" p := by
  refine ⟨?_, fun p hp => ?_⟩
  · unfold Agent.clientId at h
    split at h <;> cases h
    rfl
  · rw [Agent.clientId_eq_ok_iff.2 hp] at h
    cases h

lemma own_iff : (c.key == "participant_id") = true ↔ c.key = Rule.participantId.claimKey :=
  beq_iff_eq

/-- An assertion is made of what the agent presents. -/
lemma asserts_of_assertion? (hkey : c.key ≠ evaluationTime) {a : Assertion}
    (h : assertion? protocol c.key c.operator agent = .ok a) :
    ∃ p claims v q, Asserts c agent p claims v ∧ Puts protocol c agent p claims v q ∧
      a = asserted c p claims v q := by
  unfold assertion? at h
  split_ifs at h with hop
  simp only [assertionOf, Except.bind_eq_ok_iff, requester_eq_ok_iff,
    assertedValue_eq_ok_iff own_iff, Agent.clientId_eq_ok_iff] at h
  obtain ⟨⟨p, claims⟩, ⟨hp, hclaims⟩, v, hv, q, hq, h⟩ := h
  cases h
  exact ⟨p, claims, v, q, ⟨hkey, hop, hp, hclaims, hv⟩, hq, rfl⟩

/-- A question is put unless a signature is missing. -/
lemma unsigned_of_corroboration {r : Requester} {key v : String} {own : Bool} {e : Error}
    (h : corroboration protocol agent r key v own = .error e) :
    protocol = .bundle ∧ (∀ s, ¬ agent.Presents "signedClaims" s) ∧
      e = .missingAttribute "signedClaims" := by
  cases protocol with
  | bundle =>
    simp only [corroboration, Agent.signedClaims?] at h
    cases hs : agent.text? "signedClaims" with
    | none =>
      rw [hs] at h
      cases h
      refine ⟨rfl, fun s hp => ?_, rfl⟩
      rw [Agent.text?_eq_some_iff.2 hp] at hs
      cases hs
    | some s =>
      rw [hs] at h
      cases h
  | perKey => cases h

lemma unavailable_of_assertedValue {r : Requester} {key : String} {own : Bool}
    (hown : own = true ↔ key = Rule.participantId.claimKey) {e : Error}
    (h : assertedValue r key own = .error e) :
    subject? key r.participant r.claims = none ∧ e = .claimUnavailable key := by
  refine ⟨?_, ?_⟩
  · refine Option.eq_none_iff_forall_ne_some.2 fun v hv => ?_
    rw [(assertedValue_eq_ok_iff hown).2 hv] at h
    cases h
  · unfold assertedValue claimValue at h
    split at h
    · cases h
    · split at h <;> cases h
      rfl

/-- Without an assertion the evaluation stops at the first thing that is missing. -/
lemma stops_of_assertion? (hkey : c.key ≠ evaluationTime) {e : Error}
    (h : assertion? protocol c.key c.operator agent = .error e)
    (reply : (q : Registry.Query) → Registry.Answer q) :
    Stops protocol clock now c agent reply e := by
  unfold assertion? at h
  split_ifs at h with hop
  · simp only [assertionOf, Except.bind_eq_error_iff] at h
    rcases h with hr | ⟨⟨p, claims⟩, hr, h⟩
    · simp only [Requester.ofAgent, Except.bind_eq_error_iff] at hr
      rcases hr with hid | ⟨p, hid, hclaims | ⟨claims, -, hr⟩⟩
      · obtain ⟨rfl, hp⟩ := clientId_eq_error hid
        exact .unnamed hkey hop hp
      · exact .unclaimed hkey hop (Agent.clientId_eq_ok_iff.1 hid) hclaims
      · cases hr
    · obtain ⟨hid, hclaims⟩ := requester_eq_ok_iff.1 hr
      have hp := Agent.clientId_eq_ok_iff.1 hid
      rcases h with hv | ⟨v, hv, hq | ⟨q, -, h⟩⟩
      · obtain ⟨hnone, rfl⟩ := unavailable_of_assertedValue own_iff hv
        exact .unavailable hkey hop hp hclaims hnone
      · obtain ⟨hbundle, hs, rfl⟩ := unsigned_of_corroboration hq
        exact .unsigned ⟨hkey, hop, hp, hclaims, (assertedValue_eq_ok_iff own_iff).1 hv⟩ hbundle hs
      · cases h
  · cases h
    exact .unsupported hkey (by simpa using hop)

end Stages

section Candid

variable {Q σ τ : Type} {A : Q → Type}
  {handle : (q : Registry.Query) → σ → Dialogue Q A (Registry.Answer q × σ)}
  {source : (q : Q) → τ → A q × τ} {s : σ} {t : τ}

lemma diagnosed_time {protocol : Protocol} {clock : Clock} {now : Time.Instant} {c : Constraint}
    {agent : Agent} (hkey : c.key = evaluationTime)
    (reply : (q : Registry.Query) → Registry.Answer q) :
    let p := (((judgeTime (clock.read now) c.operator c.right).interpret handle s).play source t).1
    Diagnosed protocol clock now c agent reply p.value.1 p.warnings := by
  dsimp only [judgeTime]
  obtain ⟨hvalue, hwarnings⟩ := play_settle handle source
    (.timeRejected evaluationTime c.operator.name)
    (compareTime (clock.read now) c.operator c.right) s t
  rw [hvalue, hwarnings]
  cases h : compareTime (clock.read now) c.operator c.right with
  | ok b => exact .inl ⟨.time hkey h, rfl⟩
  | error e =>
    refine .inr ⟨rfl, e, [], _, .time hkey h, rfl, ?_, by simp, by simp⟩
    constructor <;> simp [Warning.message, Warning.fields, hkey]

lemma reports_rejection {c : Constraint} (hkey : c.key ≠ evaluationTime) (agent : Agent)
    (e : Error) : (rejection c.key c.operator agent e).Reports c e := by
  constructor <;> simp [rejection, Warning.message, Warning.fields, hkey]

/-- **The answer and the warnings of the standard engine fit how far it got**, over every registry
that reports what it does not corroborate, and that only. -/
theorem diagnosed_of_candid (hcandid : ∀ q, (statement handle source s t q).Candid)
    (protocol : Protocol) (clock : Clock) (now : Time.Instant) (c : Constraint) (agent : Agent) :
    let p := ((((Engine.standard protocol clock).evaluate now c agent).interpret handle s).play
      source t).1
    Diagnosed protocol clock now c agent (fun q => (statement handle source s t q).answer)
      p.value.1 p.warnings := by
  rw [evaluate_standard_eq]
  split_ifs with hkey
  · exact diagnosed_time hkey _
  · obtain ⟨hvalue, hwarnings⟩ := play_judge handle source (rejection c.key c.operator agent)
      (fun v => comparison c.key c.operator v c.right)
      (assertion? protocol c.key c.operator agent) s t
    dsimp only
    rw [hvalue, hwarnings]
    have hreports := reports_rejection hkey agent
    cases hx : assertion? protocol c.key c.operator agent with
    | error e =>
      exact .inr ⟨rfl, e, [], _, stops_of_assertion? hkey hx _, rfl, hreports e, by simp, by simp⟩
    | ok a =>
      obtain ⟨p, claims, v, q, hv, hq, rfl⟩ := asserts_of_assertion? hkey hx
      obtain ⟨hlength, hfrom, hsilent⟩ := hcandid q
      rw [conclusion_asserted, heard_asserted]
      cases hreply : corroborated (asserted c p claims v q) q
          (statement handle source s t q).answer with
      | error e =>
        exact .inr ⟨rfl, e, _, _, .uncorroborated hv hq hreply, rfl, hreports e, hlength, hfrom⟩
      | ok _ =>
        rw [hsilent _ hreply]
        cases h : comparison c.key c.operator v c.right with
        | ok b => exact .inl ⟨.claim hv hq hreply h, rfl⟩
        | error e =>
          exact .inr ⟨rfl, e, [], _, .incomparable hv hq hreply h, rfl, hreports e, by simp, by simp⟩

end Candid

end Policy

namespace Registry

variable {Q τ : Type} {A : Q → Type} {source : (q : Q) → τ → A q × τ} {t : τ}

/-- An answer without a warning is candid. -/
lemma candid_silent {q : Query} (a : Answer q) : Statement.Candid ⟨a, []⟩ :=
  ⟨Nat.zero_le _, fun _ hw => (List.not_mem_nil hw).elim, fun _ _ => rfl⟩

/-- A failed lookup is reported, and confirms nothing. -/
lemma candid_matchesRegistered (registered : Except Error ClaimSet) (key asserted id : String) :
    let p := ((matchesRegistered registered key asserted id : Dialogue Q A Bool).play source t).1
    Statement.Candid (q := .byKey key asserted id) ⟨p.value, p.warnings⟩ := by
  cases registered with
  | error e =>
    refine ⟨le_rfl, fun w hw => ?_, fun a ha => ?_⟩
    · obtain rfl := List.mem_singleton.1 hw
      exact .inl rfl
    · cases corroborated_byKey_iff.1 ha
  | ok claims => exact candid_silent (q := .byKey key asserted id) _

namespace Client

variable {σ α : Type} {source : Request → σ → Reply × σ} {s : σ} {c : Client} {id : String}

lemma warnings_exchange {wanted : ℕ → Bool} {read : Json.Draft → Option α} {r : Request} :
    ((exchange wanted read r).play source s).1.warnings = [] := by
  unfold exchange
  split_ifs <;> rfl

lemma warnings_fetch : ((c.fetch id).play source s).1.warnings = [] := by
  rw [fetch, Dialogue.warnings_play_bind, warnings_exchange]
  rfl

/-- An error is reported, and verifies nothing. -/
lemma candid_verify (signature : String) (claims : ClaimSet) :
    let p := ((c.verify id signature claims).play source s).1
    Statement.Candid (q := .bundle id signature claims) ⟨p.value, p.warnings⟩ := by
  have htry : ((c.tryVerify id signature claims).play source s).1.warnings = [] := by
    rw [tryVerify, Dialogue.warnings_play_bind, warnings_exchange]
    rfl
  dsimp only
  rw [verify, Dialogue.value_play_bind, Dialogue.warnings_play_bind, htry]
  cases ((c.tryVerify id signature claims).play source s).1.value with
  | ok v => exact candid_silent (q := .bundle id signature claims) v
  | error e =>
    refine ⟨le_rfl, fun w hw => ?_, fun a ha => ?_⟩
    · obtain rfl := List.mem_singleton.1 hw
      exact .inr rfl
    · cases corroborated_bundle_iff.1 ha

lemma candid_confirm (key asserted : String) :
    let p := ((c.confirm key asserted id).play source s).1
    Statement.Candid (q := .byKey key asserted id) ⟨p.value, p.warnings⟩ := by
  dsimp only
  rw [confirm, Dialogue.value_play_bind, Dialogue.warnings_play_bind, warnings_fetch]
  exact candid_matchesRegistered _ _ _ _

/-- **A client reports what it cannot corroborate**, once. -/
lemma candid_answer (cache : Cache) (q : Query) :
    (statement c.answer source cache s q).Candid := by
  unfold statement
  cases q with
  | bundle id signature claims =>
    dsimp only
    rw [answer, Dialogue.value_play_bind, Dialogue.warnings_play_bind]
    simpa [Dialogue.play] using candid_verify signature claims
  | fetch id =>
    dsimp only
    rw [answer, Dialogue.value_play_bind, Dialogue.warnings_play_bind, warnings_fetch]
    exact candid_silent (q := .fetch id) _
  | byKey key asserted id =>
    dsimp only
    rw [answer, confirmCached]
    split_ifs
    · exact candid_silent (q := .byKey key asserted id) true
    · rw [Dialogue.value_play_bind, Dialogue.warnings_play_bind]
      simpa [Dialogue.play] using candid_confirm key asserted

end Client

end Registry

namespace Directory

/-- What a directory says: it has nobody to ask in turn. -/
abbrev told (d : Directory) (q : Registry.Query) : Registry.Statement q :=
  statement (A := fun _ => Unit) (Dialogue.stateless d.answer) Dialogue.nobody () () q

/-- **A directory reports what it cannot look up**, once. -/
lemma candid_told (d : Directory) (q : Registry.Query) : (d.told q).Candid := by
  unfold told statement Dialogue.stateless
  dsimp only
  rw [Dialogue.value_play_bind, Dialogue.warnings_play_bind]
  cases q with
  | bundle id signature claims => exact Registry.candid_silent (q := .bundle id signature claims) _
  | fetch id => exact Registry.candid_silent (q := .fetch id) _
  | byKey key asserted id =>
    dsimp only [Dialogue.play]
    rw [List.append_nil]
    exact Registry.candid_matchesRegistered (d.fetch id) key asserted id

lemma answer_told (d : Directory) (q : Registry.Query) : (d.told q).answer = d.reply q := by
  rw [reply, Dialogue.outcome_eq]
  exact congrArg Prod.fst (Dialogue.value_play_bind Dialogue.nobody (d.answer q) _ ())

end Directory

namespace Policy

/-- **The diagnostics of an evaluation match its outcome**, over a directory as over a client in
any state of its cache and of the registry it talks to: what was compared is answered without a
warning, and what was given up is answered with no and reported once, last. -/
theorem diagnosed_evaluate (protocol : Protocol) (clock : Clock) (now : Time.Instant)
    (c : Constraint) (agent : Agent) :
    (∀ d : Directory,
      let p := d.consult ((Engine.standard protocol clock).evaluate now c agent)
      Diagnosed protocol clock now c agent d.reply p.value p.warnings) ∧
    ∀ {σ : Type} (client : Registry.Client) (cache : Registry.Cache)
      (source : Registry.Request → σ → Registry.Reply × σ) (s : σ),
      let p := ((((Engine.standard protocol clock).evaluate now c agent).interpret client.answer
        cache).play source s).1
      Diagnosed protocol clock now c agent
        (fun q => (Dialogue.handled client.answer source q (cache, s)).1) p.value.1 p.warnings := by
  refine ⟨fun d => ?_, fun client cache source s => ?_⟩
  · have h := diagnosed_of_candid d.candid_told protocol clock now c agent
    obtain ⟨hvalue, hwarnings⟩ := Dialogue.play_via d.answer Dialogue.nobody
      ((Engine.standard protocol clock).evaluate now c agent) ()
    dsimp only [Directory.consult]
    rw [Dialogue.outcome_eq, hvalue, hwarnings]
    simpa only [d.answer_told] using h
  · have hreply : (fun q => (Dialogue.handled client.answer source q (cache, s)).1) =
        fun q => (statement client.answer source cache s q).answer := rfl
    rw [hreply]
    exact diagnosed_of_candid (Registry.Client.candid_answer cache) protocol clock now c agent

/-- Nobody is registered, which is reported of the lookup and of the constraint. -/
example :
    let agent := Agent.ofIdentity "alice" (.ofList [("location", .text "eu")]) ""
    let p := Directory.empty.consult
      ((Engine.standard .perKey .system).evaluate ⟨0, 0⟩ ⟨"location", .eq, .string "eu"⟩ agent)
    p.value = false ∧ p.warnings.map Warning.message =
      ["registry lookup failed", "constraint not satisfied"] := by
  decide

end Policy

end Attestation
