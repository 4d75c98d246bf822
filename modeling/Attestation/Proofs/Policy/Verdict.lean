import Attestation.Policy.Engine
import Attestation.Registry.Directory
import Attestation.Proofs.Computation
import Attestation.Proofs.Keyed

/-!
The verdicts of the standard engine when a directory answers its questions.

A constraint on a claim holds exactly if the agent names itself and asserts claims, the
directory vouches for the value that is compared, and the comparison of that value succeeds.
-/

namespace Attestation

open Policy

variable {α : Type}

namespace Directory

/-- A consultation in which the directory answers every question. -/
def consult (d : Directory) (c : Consultation α) : Dialogue.Played Empty α :=
  (c.via d.answer : Dialogue Empty (fun _ => Unit) α).outcome

/-- The answer of the directory to a question. -/
def reply (d : Directory) (q : Registry.Query) : Registry.Answer q :=
  (d.answer q : Dialogue Empty (fun _ => Unit) _).outcome.value

@[simp] lemma consult_done (d : Directory) (a : α) : (d.consult (.done a)).value = a := rfl

@[simp] lemma consult_warn (d : Directory) (w : Warning) (c : Consultation α) :
    (d.consult (.warn w c)).value = (d.consult c).value := rfl

lemma consult_ask (d : Directory) (q : Registry.Query)
    (next : Registry.Answer q → Consultation α) :
    (d.consult (.ask q next)).value = (d.consult (next (d.reply q))).value :=
  Dialogue.value_bind _ _

lemma fetch_eq_ok_iff {d : Directory} {id : String} {c : ClaimSet} :
    d.fetch id = .ok c ↔ ∃ r, d.lookup id = some r ∧ r.claims = c := by
  unfold fetch registeredClaims
  cases d.lookup id with
  | none => simp
  | some r => simp

lemma reply_byKey_eq_true_iff {d : Directory} {key asserted id : String} :
    d.reply (.byKey key asserted id) = true ↔
      ∃ r, d.lookup id = some r ∧ ∃ v, r.claims.get? key = some v ∧ v.display = asserted := by
  have hreply : d.reply (.byKey key asserted id) =
      (Registry.matchesRegistered (d.fetch id) key asserted id :
        Dialogue Empty (fun _ => Unit) Bool).outcome.value := rfl
  rw [hreply]
  unfold fetch registeredClaims Registry.matchesRegistered
  cases hl : d.lookup id with
  | none => simp
  | some r => cases hv : r.claims.get? key <;> simp [hv]

lemma verify_success_iff {d : Directory} {id signature : String} {claims : ClaimSet} :
    (d.verify id signature claims).success = true ↔
      ∃ r, d.lookup id = some r ∧ r.claims.same claims = true ∧
        verifySignaturePem r.publicKeyPem signature claims = true := by
  unfold verify
  cases d.lookup id with
  | none => simp [Verification.failed]
  | some r => simp [and_comm]

/-- The verdict of the standard engine, asked about one constraint. -/
def verdict (d : Directory) (protocol : Protocol) (clock : Clock) (now : Time.Instant)
    (c : Constraint) (agent : Agent) : Bool :=
  (d.consult ((Engine.standard protocol clock).evaluate now c agent)).value

/-- The directory bears out what an agent with the id `participant` asserts, as far as the
protocol asks for it before `value` is compared under `key`. -/
def Vouches (d : Directory) (protocol : Protocol) (agent : Agent) (participant : String)
    (claims : ClaimSet) (key value : String) : Prop :=
  ∃ r, d.lookup participant = some r ∧
    match protocol with
    | .bundle => r.claims.same claims = true ∧ ∃ s, agent.signedClaims? = some s ∧
        verifySignaturePem r.publicKeyPem s claims = true
    | .perKey => key ≠ Rule.participantId.claimKey →
        ∃ v, r.claims.get? key = some v ∧ v.display = value

end Directory

namespace Policy

/-- What is compared under a key: the agent's own id for one rule, else a claim. -/
def subject? (key participant : String) (claims : ClaimSet) : Option String :=
  if key = Rule.participantId.claimKey then some participant else claims.text? key

/-- The comparison under a key: that of its rule, or the one for all other claims. -/
def comparison (key : String) (op : Operator) (value : String) (right : Json) :
    Except Error Bool :=
  match Rule.builtin? key with
  | some r => r.compare op value right
  | none => compareDynamic key op value right

lemma requester_eq_ok_iff {agent : Agent} {r : Requester} :
    Requester.ofAgent agent = .ok r ↔
      agent.clientId = .ok r.participant ∧ agent.claims = .ok r.claims := by
  unfold Requester.ofAgent
  simp only [Except.bind_eq_ok_iff]
  constructor
  · rintro ⟨p, hp, c, hc, h⟩
    cases h
    exact ⟨hp, hc⟩
  · rintro ⟨hp, hc⟩
    exact ⟨_, hp, _, hc, rfl⟩

lemma claimValue_eq_ok_iff {r : Requester} {key v : String} :
    claimValue r key = .ok v ↔ r.claims.text? key = some v := by
  unfold claimValue
  cases r.claims.text? key <;> simp

lemma corroborated_bundle_iff {a : Assertion} {id signature : String} {claims : ClaimSet}
    {v : Verification} :
    corroborated a (.bundle id signature claims) v = .ok () ↔ v.success = true := by
  unfold corroborated
  cases hv : v.success <;> simp [corroborated.notCorroborated, hv]

lemma corroborated_fetch_iff {a : Assertion} {id : String} {v : Except Error ClaimSet} :
    corroborated a (.fetch id) v = .ok () ↔ ∃ c, v = .ok c := by
  unfold corroborated
  simp [Except.map_eq_ok_iff]

lemma corroborated_byKey_iff {a : Assertion} {key asserted id : String} {v : Bool} :
    corroborated a (.byKey key asserted id) v = .ok () ↔ v = true := by
  unfold corroborated
  cases v <;> simp [corroborated.notCorroborated]

/-- The corroborating question can be put and is answered in favour exactly if the directory
vouches for the value. -/
lemma corroborated_iff {d : Directory} {protocol : Protocol} {agent : Agent} {r : Requester}
    {key value : String} {own : Bool} (hown : own = true ↔ key = Rule.participantId.claimKey) :
    (∃ q, corroboration protocol agent r key value own = .ok q ∧
      corroborated ⟨r, key, value, q⟩ q (d.reply q) = .ok ()) ↔
      d.Vouches protocol agent r.participant r.claims key value := by
  unfold corroboration Directory.Vouches
  cases protocol with
  | bundle =>
    cases hs : agent.signedClaims? with
    | none => simp
    | some s =>
      simp only [Except.ok.injEq, exists_eq_left', corroborated_bundle_iff, Option.some.injEq]
      exact Directory.verify_success_iff
  | perKey =>
    cases own with
    | true =>
      have hkey : key = Rule.participantId.claimKey := hown.1 rfl
      simp only [if_true, Except.ok.injEq, exists_eq_left', corroborated_fetch_iff, hkey, ne_eq,
        not_true, false_implies, and_true]
      exact ⟨fun ⟨c, hc⟩ => ⟨_, (Directory.fetch_eq_ok_iff.1 hc).choose_spec.1⟩,
        fun ⟨x, hx⟩ => ⟨_, Directory.fetch_eq_ok_iff.2 ⟨x, hx, rfl⟩⟩⟩
    | false =>
      have hkey : key ≠ Rule.participantId.claimKey := fun h => by simpa using hown.2 h
      simp only [Bool.false_eq_true, if_false, Except.ok.injEq, exists_eq_left',
        corroborated_byKey_iff, ne_eq, hkey, not_false_eq_true, true_implies]
      exact Directory.reply_byKey_eq_true_iff

/-- The value that is asserted: the requester's own id or a claim. -/
def assertedValue (r : Requester) (key : String) (own : Bool) : Except Error String :=
  if own then .ok r.participant else claimValue r key

lemma assertedValue_eq_ok_iff {r : Requester} {key v : String} {own : Bool}
    (hown : own = true ↔ key = Rule.participantId.claimKey) :
    assertedValue r key own = .ok v ↔ subject? key r.participant r.claims = some v := by
  unfold assertedValue subject?
  cases own with
  | true => simp [hown.1 rfl]
  | false =>
    have hkey : key ≠ Rule.participantId.claimKey := fun h => by simpa using hown.2 h
    simp [hkey, claimValue_eq_ok_iff]

/-- What both kinds of assertion come to: the requester is read off the agent, the value off
the requester, and the question follows from them. -/
def assertionOf (protocol : Protocol) (agent : Agent) (key : String) (own : Bool) :
    Except Error Assertion := do
  let requester ← Requester.ofAgent agent
  let value ← assertedValue requester key own
  let query ← corroboration protocol agent requester key value own
  return ⟨requester, key, value, query⟩

lemma ruleAssertion_eq (r : Rule) (protocol : Protocol) (op : Operator) (agent : Agent) :
    ruleAssertion r protocol op agent =
      if r.allows op then assertionOf protocol agent r.claimKey (r.source == .clientId)
      else .error (r.unsupported op) := by
  unfold ruleAssertion assertionOf assertedValue
  cases r.source <;> cases r.allows op <;> rfl

lemma dynamicAssertion_eq (key : String) (protocol : Protocol) (op : Operator) (agent : Agent) :
    dynamicAssertion key protocol op agent =
      if dynamicOperators.contains op then assertionOf protocol agent key false
      else .error (.unsupportedOperator key op.name) := by
  unfold dynamicAssertion assertionOf assertedValue
  cases dynamicOperators.contains op <;> rfl

lemma value_settle_iff {d : Directory} {report : Error → Warning} {x : Except Error Bool} :
    (d.consult (settle report x)).value = true ↔ x = .ok true := by
  cases x <;> simp [settle]

lemma value_judge_iff {d : Directory} {report : Error → Warning}
    {compare : String → Except Error Bool} {x : Except Error Assertion} :
    (d.consult (judge report compare x)).value = true ↔
      ∃ a, x = .ok a ∧ corroborated a a.query (d.reply a.query) = .ok () ∧
        compare a.value = .ok true := by
  cases x with
  | error e => simp [judge, value_settle_iff]
  | ok a =>
    simp only [judge, Directory.consult_ask, value_settle_iff, Except.bind_eq_ok_iff,
      Except.ok.injEq, exists_eq_left']
    exact ⟨fun ⟨_, hc, hv⟩ => ⟨hc, hv⟩, fun ⟨hc, hv⟩ => ⟨(), hc, hv⟩⟩

/-- **What a judgement rests on**: the agent's own words up to the value, the directory's word
for that value, and its comparison. -/
lemma value_judge_assertionOf_iff {d : Directory} {report : Error → Warning}
    {compare : String → Except Error Bool} {protocol : Protocol} {agent : Agent} {key : String}
    {own : Bool} (hown : own = true ↔ key = Rule.participantId.claimKey) :
    (d.consult (judge report compare (assertionOf protocol agent key own))).value = true ↔
      ∃ p claims v, agent.clientId = .ok p ∧ agent.claims = .ok claims ∧
        subject? key p claims = some v ∧ d.Vouches protocol agent p claims key v ∧
        compare v = .ok true := by
  rw [value_judge_iff]
  constructor
  · rintro ⟨a, ha, hc, hv⟩
    unfold assertionOf at ha
    simp only [Except.bind_eq_ok_iff, requester_eq_ok_iff] at ha
    obtain ⟨r, ⟨hp, hclaims⟩, v, hr, q, hq, h⟩ := ha
    cases h
    exact ⟨_, _, v, hp, hclaims, (assertedValue_eq_ok_iff hown).1 hr,
      (corroborated_iff hown).1 ⟨q, hq, hc⟩, hv⟩
  · rintro ⟨p, claims, v, hp, hclaims, hs, hd, hv⟩
    obtain ⟨q, hq, hc⟩ := (corroborated_iff (r := ⟨p, claims⟩) hown).2 hd
    refine ⟨⟨⟨p, claims⟩, key, v, q⟩, ?_, hc, hv⟩
    unfold assertionOf
    simp only [Except.bind_eq_ok_iff, requester_eq_ok_iff]
    exact ⟨⟨p, claims⟩, ⟨hp, hclaims⟩, v, (assertedValue_eq_ok_iff hown).2 hs, q, hq, rfl⟩

/-! ### Dispatch -/

lemma of_builtin? {key : String} {r : Rule} (h : Rule.builtin? key = some r) :
    r.claimKey = key ∧ (r.source = .clientId ↔ key = Rule.participantId.claimKey) := by
  have hkey : r.claimKey = key := by simpa using List.find?_some h
  refine ⟨hkey, ?_⟩
  have hmem : r ∈ Rule.builtin := List.mem_of_find?_eq_some h
  have hall : ∀ r ∈ Rule.builtin,
      (r.source = .clientId ↔ r.claimKey = Rule.participantId.claimKey) := by decide
  rw [← hkey]
  exact hall r hmem

/-- Rules with different keys are each found under their own, whatever was there before. -/
lemma find?_register_rules (protocol : Protocol) (key : String) (rules : List Rule) (e : Engine)
    (h : (rules.map Rule.claimKey).Nodup) :
    Keyed.find? key
        (rules.foldl (fun e r => e.register r.claimKey (.rule r protocol)) e).deciders =
      ((rules.find? fun r => r.claimKey == key).map (Decider.rule · protocol)).or
        (Keyed.find? key e.deciders) := by
  induction rules generalizing e with
  | nil => simp
  | cons r rest ih =>
    obtain ⟨hr, hrest⟩ := List.nodup_cons.1 h
    rw [List.foldl_cons, ih _ hrest, Engine.register, Keyed.find?_insert]
    by_cases hk : key = r.claimKey
    · subst hk
      have hnone : rest.find? (fun s => s.claimKey == r.claimKey) = none := by
        refine List.find?_eq_none.2 fun s hs => ?_
        have hne : s.claimKey ≠ r.claimKey := fun hs' => hr (hs' ▸ List.mem_map_of_mem hs)
        simpa using hne
      simp [hnone]
    · have hk' : (r.claimKey == key) = false := by simpa using Ne.symm hk
      rw [if_neg hk, List.find?_cons_of_neg (by simp [hk'])]

lemma deciderFor_standard (protocol : Protocol) (clock : Clock) (key : String) :
    (Engine.standard protocol clock).deciderFor key = some
      (if key = evaluationTime then .time clock
      else match Rule.builtin? key with
        | some r => .rule r protocol
        | none => .dynamic protocol) := by
  have hrules := find?_register_rules protocol key Rule.builtin .empty (by decide)
  unfold Engine.deciderFor Engine.standard Engine.withFallback
  rw [Engine.register, Keyed.find?_insert, hrules, ← Rule.builtin?]
  by_cases hk : key = evaluationTime
  · simp [hk]
  · cases Rule.builtin? key <;> simp [hk, Engine.empty]

/-- The standard engine decides by the time, by a rule, or by comparing a claim as it is. -/
lemma evaluate_standard (protocol : Protocol) (clock : Clock) (now : Time.Instant)
    (c : Constraint) (agent : Agent) : (Engine.standard protocol clock).evaluate now c agent =
      Decider.evaluate now
        (if c.key = evaluationTime then .time clock
        else match Rule.builtin? c.key with
          | some r => .rule r protocol
          | none => .dynamic protocol) c agent := by
  rw [Engine.evaluate, deciderFor_standard]

/-- The operators that a claim under `key` may be compared with, by its rule or without one. -/
def supports (key : String) (op : Operator) : Bool :=
  match Rule.builtin? key with
  | some r => r.allows op
  | none => dynamicOperators.contains op

/-- The assertion that is made under `key`, if the operator is supported there. -/
def assertion? (protocol : Protocol) (key : String) (op : Operator) (agent : Agent) :
    Except Error Assertion :=
  if supports key op then assertionOf protocol agent key (key == "participant_id")
  else .error (.unsupportedOperator key op.name)

/-- The standard engine compares the time, or judges one assertion. -/
lemma evaluate_standard_eq (protocol : Protocol) (clock : Clock) (now : Time.Instant)
    (c : Constraint) (agent : Agent) : (Engine.standard protocol clock).evaluate now c agent =
      if c.key = evaluationTime then judgeTime (clock.read now) c.operator c.right
      else judge (rejection c.key c.operator agent) (fun v => comparison c.key c.operator v c.right)
        (assertion? protocol c.key c.operator agent) := by
  rw [evaluate_standard]
  by_cases htime : c.key = evaluationTime
  · rw [if_pos htime, if_pos htime]
    rfl
  · rw [if_neg htime, if_neg htime]
    unfold assertion? supports comparison
    cases hr : Rule.builtin? c.key with
    | some r =>
      obtain ⟨hk, hsource⟩ := of_builtin? hr
      have hown : (r.source == .clientId) = (c.key == "participant_id") := by
        rw [Bool.eq_iff_iff, beq_iff_eq, beq_iff_eq]
        exact hsource
      simp only [Decider.evaluate, ruleAssertion_eq, Rule.unsupported, hk, hown]
    | none =>
      have hown : (c.key == "participant_id") = false := by
        rw [beq_eq_false_iff_ne]
        intro h
        rw [h] at hr
        exact absurd hr (by decide)
      simp only [Decider.evaluate, dynamicAssertion_eq, hown]

lemma allows_of_compare {r : Rule} {op : Operator} {value : String} {right : Json} {b : Bool}
    (h : r.compare op value right = .ok b) : r.allows op = true := by
  cases ha : r.allows op with
  | true => rfl
  | false => simp [Rule.compare, ha] at h

lemma dynamic_of_compare {key : String} {op : Operator} {value : String} {right : Json}
    {b : Bool} (h : compareDynamic key op value right = .ok b) :
    dynamicOperators.contains op = true := by
  cases op with
  | hasPart | isA | isAllOf | isAnyOf | isNoneOf => simp [compareDynamic, Operator.isNumeric] at h
  | _ => rfl

/-- What is compared has a supported operator. -/
lemma supports_of_comparison {key : String} {op : Operator} {value : String} {right : Json}
    {b : Bool} (h : comparison key op value right = .ok b) : supports key op = true := by
  unfold comparison at h
  unfold supports
  cases hr : Rule.builtin? key with
  | some r =>
    rw [hr] at h
    exact allows_of_compare h
  | none =>
    rw [hr] at h
    exact dynamic_of_compare h

end Policy

namespace Directory

/-- **What a verdict rests on.** A constraint that is not on the time holds exactly if the agent
names itself and asserts claims, the directory vouches for the value that is compared, and the
comparison holds. -/
theorem verdict_eq_true_iff {d : Directory} {protocol : Protocol} {clock : Clock}
    {now : Time.Instant} {c : Constraint} {agent : Agent} (hkey : c.key ≠ evaluationTime) :
    d.verdict protocol clock now c agent = true ↔
      ∃ p claims v, agent.clientId = .ok p ∧ agent.claims = .ok claims ∧
        subject? c.key p claims = some v ∧ d.Vouches protocol agent p claims c.key v ∧
        comparison c.key c.operator v c.right = .ok true := by
  unfold verdict
  rw [evaluate_standard_eq, if_neg hkey, assertion?]
  cases hop : supports c.key c.operator with
  | true =>
    rw [if_pos rfl]
    exact value_judge_assertionOf_iff beq_iff_eq
  | false =>
    rw [if_neg Bool.false_ne_true]
    simp only [value_judge_iff, reduceCtorEq, false_and, exists_false, false_iff]
    rintro ⟨p, claims, v, -, -, -, -, hv⟩
    rw [supports_of_comparison hv] at hop
    cases hop

end Directory

end Attestation
