import Attestation.Policy.Agent
import Attestation.Policy.Constraint
import Attestation.Policy.Rule
import Attestation.Registry.Query
import Attestation.Time.Rfc3339

/-!
Deciding constraints.

A claim counts only if the registry vouches for it. Whatever is asserted is first looked up in
the agent, then put before the registry, and compared last; any failure on the way is reported
and means that the constraint is not satisfied. A constraint asks the registry at most once.
-/

namespace Attestation

/-- Where the time comes from. -/
inductive Clock where
  | fixed (t : Time.Instant)
  | system
  deriving DecidableEq, Repr

def Clock.read (now : Time.Instant) : Clock → Time.Instant
  | .fixed t => t
  | .system => now

/-- What answers for a claim. -/
inductive Decider where
  | rule (r : Rule) (protocol : Protocol)
  | time (clock : Clock)
  | dynamic (protocol : Protocol)

/-- Functions by claim key, and one for all other keys. -/
structure Engine where
  deciders : List (String × Decider)
  fallback : Option Decider

namespace Policy

/-- The key of the constraint on the time of evaluation. -/
def evaluationTime : String := "policy_evaluation_time"

/-- What an agent says about itself. -/
structure Requester where
  participant : String
  claims : ClaimSet

def Requester.ofAgent (a : Agent) : Except Error Requester := do
  let participant ← a.clientId
  let claims ← a.claims
  return ⟨participant, claims⟩

/-- A value to compare, and the question to the registry that has to be answered first. -/
structure Assertion where
  requester : Requester
  claimKey : String
  value : String
  query : Registry.Query

/-- The question that corroborates a claim, or, by key, the registration alone. -/
def corroboration (protocol : Protocol) (agent : Agent) (r : Requester) (key value : String)
    (registrationOnly : Bool) : Except Error Registry.Query :=
  match protocol with
  | .bundle =>
    match agent.signedClaims? with
    | some signature => .ok (.bundle r.participant signature r.claims)
    | none => .error (.missingAttribute "signedClaims")
  | .perKey =>
    .ok (if registrationOnly then .fetch r.participant else .byKey key value r.participant)

/-- What the registry's answer means for the assertion. -/
def corroborated (a : Assertion) : (q : Registry.Query) → Registry.Answer q → Except Error Unit
  | .bundle _ _ _, v => if v.success then .ok () else notCorroborated
  | .fetch _, v => v.map fun _ => ()
  | .byKey _ _ _, v => if v then .ok () else notCorroborated
where
  notCorroborated : Except Error Unit :=
    .error (.notCorroborated a.requester.participant a.claimKey)

/-- A claim of the requester that is a text and not blank. -/
def claimValue (r : Requester) (key : String) : Except Error String :=
  match r.claims.text? key with
  | some v => .ok v
  | none => .error (.claimUnavailable key)

/-- What a rule has the registry asked, if the operator and the agent allow it. -/
def ruleAssertion (r : Rule) (protocol : Protocol) (op : Operator) (agent : Agent) :
    Except Error Assertion := do
  if !r.allows op then throw (r.unsupported op)
  let requester ← Requester.ofAgent agent
  let value ← match r.source with
    | .clientId => pure requester.participant
    | .claim => claimValue requester r.claimKey
  let query ← corroboration protocol agent requester r.claimKey value (r.source == .clientId)
  return ⟨requester, r.claimKey, value, query⟩

/-- The same for a claim without a rule. -/
def dynamicAssertion (key : String) (protocol : Protocol) (op : Operator) (agent : Agent) :
    Except Error Assertion := do
  if !dynamicOperators.contains op then throw (.unsupportedOperator key op.name)
  let requester ← Requester.ofAgent agent
  let value ← claimValue requester key
  let query ← corroboration protocol agent requester key value false
  return ⟨requester, key, value, query⟩

/-- Reports an error and answers no. -/
def settle (report : Error → Warning) : Except Error Bool → Consultation Bool
  | .ok b => .done b
  | .error e => .warn (report e) (.done false)

/-- Asks the registry about an assertion and then compares. -/
def judge (report : Error → Warning) (compare : String → Except Error Bool) :
    Except Error Assertion → Consultation Bool
  | .error e => settle report (.error e)
  | .ok a => .ask a.query fun answer =>
    settle report (do
      corroborated a a.query answer
      compare a.value)

def rejection (key : String) (op : Operator) (agent : Agent) (e : Error) : Warning :=
  .rejected key op.name agent.clientId.toOption e

/-- Compares the time with a bound. -/
def compareTime (now : Time.Instant) (op : Operator) (right : Json) : Except Error Bool := do
  let unsupported : Error := .unsupportedOperator evaluationTime op.name
  if (op.test .eq).isNone then throw unsupported
  let bound ← match right with
    | .string s => Time.Instant.parse s
    | _ => throw (.invalidRightOperand evaluationTime (.expectedTimestamp right.text))
  match op.test (now.compare bound) with
  | some b => return b
  | none => throw unsupported

def judgeTime (now : Time.Instant) (op : Operator) (right : Json) : Consultation Bool :=
  settle (.timeRejected evaluationTime op.name) (compareTime now op right)

end Policy

open Policy

/-- Decides one constraint at the time `now`. -/
def Decider.evaluate (now : Time.Instant) (d : Decider) (c : Constraint) (agent : Agent) :
    Consultation Bool :=
  match d with
  | .rule r protocol =>
    judge (rejection r.claimKey c.operator agent) (fun v => r.compare c.operator v c.right)
      (ruleAssertion r protocol c.operator agent)
  | .dynamic protocol =>
    judge (rejection c.key c.operator agent)
      (fun v => compareDynamic c.key c.operator v c.right)
      (dynamicAssertion c.key protocol c.operator agent)
  | .time clock => judgeTime (clock.read now) c.operator c.right

namespace Engine

def empty : Engine := ⟨[], none⟩

def register (e : Engine) (key : String) (d : Decider) : Engine :=
  { e with deciders := Keyed.insert key d e.deciders }

def withFallback (e : Engine) (d : Decider) : Engine := { e with fallback := some d }

def isRegistered (e : Engine) (key : String) : Bool := Keyed.contains key e.deciders

/-- The rules, the constraint on time, and the comparison for all other claims. -/
def standard (protocol : Protocol) (clock : Clock) : Engine :=
  ((Rule.builtin.foldl (fun e r => e.register r.claimKey (.rule r protocol)) empty).register
    evaluationTime (.time clock)).withFallback (.dynamic protocol)

def deciderFor (e : Engine) (key : String) : Option Decider :=
  (Keyed.find? key e.deciders).or e.fallback

def evaluate (now : Time.Instant) (e : Engine) (c : Constraint) (agent : Agent) :
    Consultation Bool :=
  match e.deciderFor c.key with
  | some d => d.evaluate now c agent
  | none => .warn (.unbound c.key) (.done false)

/-- All constraints hold; the first that does not ends the evaluation. -/
def evaluateAll (now : Time.Instant) (e : Engine) (agent : Agent) :
    List Constraint → Consultation Bool
  | [] => .done true
  | c :: rest =>
    (e.evaluate now c agent).bind fun b => if b then e.evaluateAll now agent rest else .done false

end Engine

end Attestation
