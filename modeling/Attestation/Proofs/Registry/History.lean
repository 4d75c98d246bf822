import Attestation.Proofs.Policy.Corroboration
import Mathlib.Data.Finset.Card

/-!
What the history of a directory says about its records.

A run interleaves registrations, updates and removals with questions and evaluations. The record of
a participant follows from the run: the last registration gives the key and, with the updates since,
the claims, unless a removal came later. Each step is answered from the records it finds.
-/

namespace Attestation

open Policy

namespace Directory

/-- A step of a run. -/
inductive Act where
  | register (id : String) (r : ParticipantRecord)
  | update (id : String) (claims : ClaimSet)
  | remove (id : String)
  | ask (q : Registry.Query)
  | evaluate (protocol : Protocol) (clock : Clock) (now : Time.Instant) (c : Constraint)
      (agent : Agent)

namespace Act

/-- What is reported of a step. -/
abbrev Report : Act → Type
  | .register _ _ => Unit
  | .update _ _ => Bool
  | .remove _ => Option ParticipantRecord
  | .ask q => Registry.Answer q
  | .evaluate _ _ _ _ _ => Bool

/-- The participant that a step is to change. -/
def subject? : Act → Option String
  | .register id _ | .update id _ | .remove id => some id
  | .ask _ | .evaluate _ _ _ _ _ => none

/-- The claims that a step puts in place of those of `id`. -/
def claimsFor? (id : String) : Act → Option ClaimSet
  | .update i claims => if i = id then some claims else none
  | _ => none

/-- The claims of the last update of `id`, or else `claims`. -/
def lastClaims (id : String) (claims : ClaimSet) (acts : List Act) : ClaimSet :=
  (acts.filterMap (claimsFor? id)).getLastD claims

/-- No step registers the participant `id`. -/
def Unregistered (id : String) (acts : List Act) : Prop := ∀ r, .register id r ∉ acts

/-- The run leaves the record `r` of `id`, with the key of the last registration and the claims of
that registration or of the last update after it, which finds the participant registered. -/
def Leaves (acts : List Act) (id : String) (r : ParticipantRecord) : Prop :=
  ∃ earlier claims later, acts = earlier ++ .register id ⟨r.publicKeyPem, claims⟩ :: later ∧
    Unregistered id later ∧ .remove id ∉ later ∧ r.claims = lastClaims id claims later

/-- The participant `id` was removed and not registered since. -/
def Removed (acts : List Act) (id : String) : Prop :=
  ∃ earlier later, acts = earlier ++ .remove id :: later ∧ Unregistered id later

end Act

open Act

/-- A step, with what is reported of it. -/
def perform (d : Directory) : (a : Act) → a.Report × Directory
  | .register id r => ((), d.register id r)
  | .update id claims => d.updateClaims id claims
  | .remove id => d.remove id
  | .ask q => (d.reply q, d)
  | .evaluate protocol clock now c agent => (d.verdict protocol clock now c agent, d)

lemma perform_evaluate (d : Directory) (protocol : Protocol) (clock : Clock) (now : Time.Instant)
    (c : Constraint) (agent : Agent) : d.perform (.evaluate protocol clock now c agent) =
      (d.verdict protocol clock now c agent, d) := rfl

lemma perform_ask (d : Directory) (q : Registry.Query) : d.perform (.ask q) = (d.reply q, d) := rfl

/-- The directory after a run. -/
def after (d : Directory) (acts : List Act) : Directory :=
  acts.foldl (fun d a => (d.perform a).2) d

/-! ### One step -/

section Step

variable {d : Directory} {a : Act} {id : String} {r : ParticipantRecord}

lemma lookup_register (d : Directory) (id i : String) (r : ParticipantRecord) :
    (d.register i r).lookup id = if id = i then some r else d.lookup id :=
  Keyed.find?_insert id i r d.records

lemma lookup_remove (d : Directory) (id i : String) :
    (d.remove i).2.lookup id = if id = i then none else d.lookup id :=
  Keyed.find?_erase id i d.records

lemma updateClaims_of_some {claims : ClaimSet} (h : d.lookup id = some r) :
    d.updateClaims id claims = (true, d.register id { r with claims := claims }) := by
  rw [updateClaims, h]

lemma updateClaims_of_none {claims : ClaimSet} (h : d.lookup id = none) :
    d.updateClaims id claims = (false, d) := by
  rw [updateClaims, h]

lemma remove_of_none (h : d.lookup id = none) : d.remove id = (none, d) := by
  have herase : Keyed.erase id d.records = d.records := by
    refine List.filter_eq_self.2 fun entry hentry => decide_eq_true fun hid => ?_
    obtain ⟨r, hr⟩ := Keyed.mem_keys_iff.1 (List.mem_map.2 ⟨entry, hentry, hid⟩)
    rw [lookup, hr] at h
    cases h
  rw [remove, h, herase]

/-- A step changes no record but that of its subject. -/
lemma lookup_perform_of_ne (h : a.subject? ≠ some id) :
    (d.perform a).2.lookup id = d.lookup id := by
  cases a with
  | register i r => exact (lookup_register d id i r).trans (if_neg fun hid => h (by rw [hid]; rfl))
  | update i claims =>
    have hid : id ≠ i := fun hid => h (by rw [hid]; rfl)
    change (d.updateClaims i claims).2.lookup id = d.lookup id
    cases hi : d.lookup i with
    | none => rw [updateClaims_of_none hi]
    | some r => rw [updateClaims_of_some hi, lookup_register, if_neg hid]
  | remove i => exact (lookup_remove d id i).trans (if_neg fun hid => h (by rw [hid]; rfl))
  | ask q => rfl
  | evaluate protocol clock now c agent => rfl

/-- A participant stays unknown until it is registered. -/
lemma lookup_perform_none (ha : ∀ r, a ≠ .register id r) (h : d.lookup id = none) :
    (d.perform a).2.lookup id = none := by
  by_cases hsubject : a.subject? = some id
  · cases a with
    | register i r => exact absurd (Option.some.inj hsubject ▸ rfl) (ha r)
    | update i claims =>
      obtain rfl : i = id := Option.some.inj hsubject
      change (d.updateClaims i claims).2.lookup i = none
      rw [updateClaims_of_none h, h]
    | remove i =>
      obtain rfl : i = id := Option.some.inj hsubject
      exact (lookup_remove d i i).trans (if_pos rfl)
    | ask q => cases hsubject
    | evaluate protocol clock now c agent => cases hsubject
  · rw [lookup_perform_of_ne hsubject, h]

/-- Unless it is registered anew or removed, a participant keeps its key, and its claims are
those of the update if there is one. -/
lemma lookup_perform_some (hregister : ∀ r, a ≠ .register id r) (hremove : a ≠ .remove id)
    (h : d.lookup id = some r) : (d.perform a).2.lookup id =
      some { r with claims := (a.claimsFor? id).getD r.claims } := by
  by_cases hsubject : a.subject? = some id
  · cases a with
    | register i r => exact absurd (Option.some.inj hsubject ▸ rfl) (hregister r)
    | update i claims =>
      obtain rfl : i = id := Option.some.inj hsubject
      change (d.updateClaims i claims).2.lookup i = _
      rw [updateClaims_of_some h, lookup_register, if_pos rfl, claimsFor?, if_pos rfl]
      rfl
    | remove i => exact absurd (Option.some.inj hsubject ▸ rfl) hremove
    | ask q => cases hsubject
    | evaluate protocol clock now c agent => cases hsubject
  · have hclaims : a.claimsFor? id = none := by
      cases a with
      | update i claims => exact if_neg fun hid => hsubject (congrArg some hid)
      | register i r => rfl
      | remove i => rfl
      | ask q => rfl
      | evaluate protocol clock now c agent => rfl
    rw [lookup_perform_of_ne hsubject, h, hclaims]
    rfl

lemma increasing_perform (h : Keyed.Increasing d.records) (a : Act) :
    Keyed.Increasing (d.perform a).2.records := by
  cases a with
  | register i r => exact Keyed.increasing_insert h
  | update i claims =>
    change Keyed.Increasing (d.updateClaims i claims).2.records
    cases hi : d.lookup i with
    | none => rwa [updateClaims_of_none hi]
    | some r =>
      rw [updateClaims_of_some hi]
      exact Keyed.increasing_insert h
  | remove i => exact Keyed.increasing_erase h
  | ask q => exact h
  | evaluate protocol clock now c agent => exact h

end Step

/-! ### Runs -/

section Run

variable {d : Directory} {acts : List Act} {id : String} {r : ParticipantRecord}

lemma after_append (d : Directory) (earlier later : List Act) :
    d.after (earlier ++ later) = (d.after earlier).after later :=
  List.foldl_append

lemma increasing_after (h : Keyed.Increasing d.records) (acts : List Act) :
    Keyed.Increasing (d.after acts).records := by
  induction acts generalizing d with
  | nil => exact h
  | cons a rest ih => exact ih (increasing_perform h a)

lemma lookup_after_none (ha : Unregistered id acts) (h : d.lookup id = none) :
    (d.after acts).lookup id = none := by
  induction acts generalizing d with
  | nil => exact h
  | cons a rest ih =>
    have hrest : Unregistered id rest := fun r hr => ha r (List.mem_cons_of_mem _ hr)
    exact ih hrest (lookup_perform_none (fun r hr => ha r (hr ▸ List.mem_cons_self)) h)

lemma lastClaims_cons (id : String) (claims : ClaimSet) (a : Act) (rest : List Act) :
    lastClaims id claims (a :: rest) = lastClaims id ((a.claimsFor? id).getD claims) rest := by
  rw [lastClaims, List.filterMap_cons]
  cases a.claimsFor? id with
  | none => rfl
  | some c => exact List.getLastD_cons

lemma lookup_after_some (hregister : Unregistered id acts) (hremove : .remove id ∉ acts)
    (h : d.lookup id = some r) :
    (d.after acts).lookup id = some { r with claims := lastClaims id r.claims acts } := by
  induction acts generalizing d r with
  | nil => exact h
  | cons a rest ih =>
    have hstep := lookup_perform_some (fun r hr => hregister r (hr ▸ List.mem_cons_self))
      (fun hr => hremove (hr ▸ List.mem_cons_self)) h
    have hrest : Unregistered id rest := fun r hr => hregister r (List.mem_cons_of_mem _ hr)
    rw [lastClaims_cons]
    exact ih hrest (fun hr => hremove (List.mem_cons_of_mem _ hr)) hstep

/-- What a run leaves is on record. -/
lemma Act.Leaves.lookup_after (h : Leaves acts id r) : (d.after acts).lookup id = some r := by
  obtain ⟨earlier, claims, later, rfl, hregister, hremove, hclaims⟩ := h
  have hregistered : (((d.after earlier).perform (.register id ⟨r.publicKeyPem, claims⟩)).2).lookup
      id = some ⟨r.publicKeyPem, claims⟩ :=
    (lookup_register _ id id _).trans (if_pos rfl)
  rw [after_append]
  refine (lookup_after_some hregister hremove hregistered).trans ?_
  rw [← hclaims]

lemma Act.Removed.lookup_after (h : Removed acts id) : (d.after acts).lookup id = none := by
  obtain ⟨earlier, later, rfl, hregister⟩ := h
  have hremoved : (((d.after earlier).perform (.remove id)).2).lookup id = none :=
    (lookup_remove _ id id).trans (if_pos rfl)
  rw [after_append]
  change (((d.after earlier).perform (.remove id)).2.after later).lookup id = none
  exact lookup_after_none hregister hremoved

end Run

/-! ### Every run leaves a record or none -/

namespace Act

variable {acts : List Act} {a : Act} {id : String} {r : ParticipantRecord}

lemma unregistered_concat (h : Unregistered id acts) (ha : ∀ r, a ≠ .register id r) :
    Unregistered id (acts ++ [a]) := by
  intro r hr
  rcases List.mem_append.1 hr with hr | hr
  · exact h r hr
  · exact ha r (List.mem_singleton.1 hr).symm

lemma Leaves.concat (h : Leaves acts id r) (hregister : ∀ r, a ≠ .register id r)
    (hremove : a ≠ .remove id) : ∃ r', Leaves (acts ++ [a]) id r' := by
  obtain ⟨earlier, claims, later, rfl, hlater, hkept, -⟩ := h
  refine ⟨⟨r.publicKeyPem, lastClaims id claims (later ++ [a])⟩, earlier, claims, later ++ [a],
    by simp, unregistered_concat hlater hregister, fun hr => ?_, rfl⟩
  rcases List.mem_append.1 hr with hr | hr
  · exact hkept hr
  · exact hremove (List.mem_singleton.1 hr).symm

lemma Removed.concat (h : Removed acts id) (ha : ∀ r, a ≠ .register id r) :
    Removed (acts ++ [a]) id := by
  obtain ⟨earlier, later, rfl, hlater⟩ := h
  exact ⟨earlier, later ++ [a], by simp, unregistered_concat hlater ha⟩

/-- By induction on the run, from its end: its last step registers the participant, removes it, or
leaves it as it was but for an update. -/
lemma leaves_or (acts : List Act) (id : String) :
    (∃ r, Leaves acts id r) ∨ Unregistered id acts ∨ Removed acts id := by
  induction acts using List.reverseRecOn with
  | nil => exact .inr (.inl fun r => List.not_mem_nil)
  | append_singleton acts a ih =>
    by_cases hregister : ∃ r, a = .register id r
    · obtain ⟨r, rfl⟩ := hregister
      exact .inl ⟨r, acts, r.claims, [], rfl, fun _ => List.not_mem_nil, List.not_mem_nil, rfl⟩
    have hregister : ∀ r, a ≠ .register id r := not_exists.1 hregister
    by_cases hremove : a = .remove id
    · subst hremove
      exact .inr (.inr ⟨acts, [], rfl, fun _ => List.not_mem_nil⟩)
    rcases ih with ⟨r, hr⟩ | hunknown | hremoved
    · exact .inl (hr.concat hregister hremove)
    · exact .inr (.inl (unregistered_concat hunknown hregister))
    · exact .inr (.inr (hremoved.concat hregister))

end Act

lemma lookup_after_eq_none_iff {acts : List Act} {id : String} :
    (empty.after acts).lookup id = none ↔ Unregistered id acts ∨ Removed acts id := by
  constructor
  · intro h
    rcases leaves_or acts id with ⟨r, hr⟩ | hnone
    · rw [hr.lookup_after] at h
      cases h
    · exact hnone
  · rintro (h | h)
    · exact lookup_after_none h rfl
    · exact h.lookup_after

lemma lookup_after_eq_some_iff {acts : List Act} {id : String} {r : ParticipantRecord} :
    (empty.after acts).lookup id = some r ↔ Leaves acts id r := by
  constructor
  · intro h
    rcases leaves_or acts id with ⟨r', hr⟩ | hnone
    · obtain rfl : r' = r := Option.some.inj (hr.lookup_after.symm.trans h)
      exact hr
    · rw [lookup_after_eq_none_iff.2 hnone] at h
      cases h
  · exact fun h => h.lookup_after

/-! ### Verdicts -/

section Verdict

variable {d : Directory} {agent : Agent} {id : String} {protocol : Protocol} {clock : Clock}
  {now : Time.Instant} {c : Constraint}

/-- No constraint on a claim holds of a participant without a record. -/
lemma verdict_of_none (hkey : c.key ≠ evaluationTime) (hid : agent.Presents "client_id" id)
    (h : d.lookup id = none) : d.verdict protocol clock now c agent = false := by
  rw [← Bool.not_eq_true, verdict_eq_true_iff hkey]
  rintro ⟨p, claims, v, hp, -, -, ⟨r, hr, -⟩, -⟩
  obtain rfl := Except.ok.inj ((Agent.clientId_eq_ok_iff.2 hid).symm.trans hp)
  rw [h] at hr
  cases hr

/-- Under the bundle protocol none holds of one whose registered claims are not the asserted. -/
lemma verdict_of_drift {r : ParticipantRecord} {claims : ClaimSet} (hkey : c.key ≠ evaluationTime)
    (hid : agent.Presents "client_id" id) (hclaims : agent.claims = .ok claims)
    (hr : d.lookup id = some r) (h : r.claims.same claims = false) :
    d.verdict .bundle clock now c agent = false := by
  rw [← Bool.not_eq_true, verdict_eq_true_iff hkey]
  rintro ⟨p, asserted, v, hp, hasserted, -, ⟨r', hr', hsame, -⟩, -⟩
  obtain rfl := Except.ok.inj ((Agent.clientId_eq_ok_iff.2 hid).symm.trans hp)
  obtain rfl := Except.ok.inj (hclaims.symm.trans hasserted)
  obtain rfl := Option.some.inj (hr.symm.trans hr')
  rw [h] at hsame
  cases hsame

end Verdict

/-! ### The directory after a run -/

/-- The directory is as the run says that led to it, and its next step is answered accordingly. -/
structure Faithful (acts : List Act) (d : Directory) : Prop where
  recorded (id : String) (r : ParticipantRecord) : d.lookup id = some r ↔ Leaves acts id r
  absent (id : String) : d.lookup id = none ↔ Unregistered id acts ∨ Removed acts id
  refused (id : String) (h : d.lookup id = none) :
    (∀ claims, d.perform (.update id claims) = (false, d)) ∧ d.perform (.remove id) = (none, d)
  accepted (id : String) (r : ParticipantRecord) (h : d.lookup id = some r) :
    (∀ claims, (d.perform (.update id claims)).1 = true) ∧ (d.perform (.remove id)).1 = some r
  frame (a : Act) (id : String) (h : a.subject? ≠ some id) :
    (d.perform a).2.lookup id = d.lookup id
  fetched (id : String) (r : ParticipantRecord) (h : Leaves acts id r) :
    d.perform (.ask (.fetch id)) = (.ok r.claims, d)
  verified (id : String) (r : ParticipantRecord) (h : Leaves acts id r) (signature : String)
    (claims : ClaimSet) : (d.perform (.ask (.bundle id signature claims))).1.success = true ↔
      r.claims.same claims = true ∧ verifySignaturePem r.publicKeyPem signature claims = true
  matched (id : String) (r : ParticipantRecord) (h : Leaves acts id r) (key asserted : String) :
    (d.perform (.ask (.byKey key asserted id))).1 = true ↔
      ∃ v, r.claims.get? key = some v ∧ v.display = asserted
  size : ∃ live : Finset String, (∀ id, id ∈ live ↔ ∃ r, Leaves acts id r) ∧ d.size = live.card
  removed (id : String) (h : Removed acts id) (protocol : Protocol) (clock : Clock)
    (now : Time.Instant) (c : Constraint) (agent : Agent) (hkey : c.key ≠ evaluationTime)
    (hid : agent.Presents "client_id" id) :
    d.perform (.evaluate protocol clock now c agent) = (false, d)
  drifted (id : String) (r : ParticipantRecord) (h : Leaves acts id r) (clock : Clock)
    (now : Time.Instant) (c : Constraint) (agent : Agent) (claims : ClaimSet)
    (hkey : c.key ≠ evaluationTime) (hid : agent.Presents "client_id" id)
    (hclaims : agent.claims = .ok claims) (hdiffer : r.claims.same claims = false) :
    d.perform (.evaluate .bundle clock now c agent) = (false, d)

lemma size_after (acts : List Act) : ∃ live : Finset String,
    (∀ id, id ∈ live ↔ ∃ r, Leaves acts id r) ∧ (empty.after acts).size = live.card := by
  have hnodup : (Keyed.keys (empty.after acts).records).Nodup :=
    Keyed.nodup_keys_of_increasing (increasing_after Keyed.increasing_nil acts)
  refine ⟨⟨Keyed.keys (empty.after acts).records, hnodup⟩, fun id => ?_, ?_⟩
  · simp only [← lookup_after_eq_some_iff]
    exact Keyed.mem_keys_iff
  · exact (List.length_map _).symm

/-- **Changes take effect at once and touch only their participant.** After any run, and so at
every step of a longer one, the records are those that the run leaves, one for every live
participant, and answers are given from them; a change to an unknown participant changes nothing,
and no step changes the record of another. No claim-based evaluation comes out true for a removed
participant, nor, by bundle, for one whose claims have drifted. -/
theorem faithful_after (acts : List Act) : Faithful acts (empty.after acts) where
  recorded _ _ := lookup_after_eq_some_iff
  absent _ := lookup_after_eq_none_iff
  refused _ h := ⟨fun _ => updateClaims_of_none h, remove_of_none h⟩
  accepted _ _ h := ⟨fun _ => congrArg Prod.fst (updateClaims_of_some h), h⟩
  frame _ _ h := lookup_perform_of_ne h
  fetched _ r h := by
    rw [perform_ask]
    exact congrArg (·, _) (fetch_eq_ok_iff.2 ⟨r, h.lookup_after, rfl⟩)
  verified _ r h signature claims := by
    rw [perform_ask]
    refine verify_success_iff.trans ?_
    simp only [h.lookup_after, Option.some.injEq, exists_eq_left']
  matched _ r h key asserted := by
    rw [perform_ask]
    refine reply_byKey_eq_true_iff.trans ?_
    simp only [h.lookup_after, Option.some.injEq, exists_eq_left']
  size := size_after acts
  removed _ h _ _ _ _ _ hkey hid := by
    rw [perform_evaluate, verdict_of_none hkey hid h.lookup_after]
  drifted _ _ h _ _ _ _ _ hkey hid hclaims hdiffer := by
    rw [perform_evaluate, verdict_of_drift hkey hid hclaims h.lookup_after hdiffer]

example : (empty.after [.register "p" ⟨"key", .empty⟩, .remove "q",
    .update "p" (.ofList [("tier", .flag true)]), .update "q" .empty]).lookup "p" =
      some ⟨"key", .ofList [("tier", .flag true)]⟩ := rfl

end Directory

end Attestation
