import Attestation.Proofs.Key
import Attestation.Proofs.Policy.Verdict

/-!
Self-assertion satisfies no constraint: whatever an agent presents, a constraint that holds is
borne out by the directory's record of that agent.
-/

namespace Attestation

open Policy

lemma Text.unless_blank_eq_some_iff {s t : String} :
    (if Text.isBlank s then none else some s) = some t ↔ s = t ∧ Text.isBlank t = false := by
  by_cases hb : Text.isBlank s = true
  · simp only [hb, if_true, reduceCtorEq, false_iff, not_and]
    rintro rfl
    simp [hb]
  · simp only [hb, if_false, Option.some.injEq, Bool.false_eq_true]
    constructor
    · rintro rfl
      exact ⟨rfl, by simpa using hb⟩
    · exact fun h => h.1

namespace Agent

/-- The agent has the attribute `name`, a string that is not blank. -/
def Presents (a : Agent) (name s : String) : Prop :=
  a.attribute? name = some (.string s) ∧ Text.isBlank s = false

lemma text?_eq_some_iff {a : Agent} {name s : String} :
    a.text? name = some s ↔ a.Presents name s := by
  unfold text? Presents
  split
  · rename_i t ht
    rw [ht, Text.unless_blank_eq_some_iff, Option.some.injEq, Json.string.injEq]
  · rename_i hn
    simp only [reduceCtorEq, false_iff, not_and]
    intro h
    exact absurd h (hn s)

lemma clientId_eq_ok_iff {a : Agent} {p : String} :
    a.clientId = .ok p ↔ a.Presents "client_id" p := by
  rw [← text?_eq_some_iff]
  unfold clientId
  cases a.text? "client_id" <;> simp

end Agent

lemma ClaimSet.text?_eq_some_iff {claims : ClaimSet} {key v : String} :
    claims.text? key = some v ↔ claims.get? key = some (.text v) ∧ Text.isBlank v = false := by
  unfold ClaimSet.text?
  split
  · rename_i t ht
    rw [ht, Text.unless_blank_eq_some_iff, Option.some.injEq, ClaimValue.text.injEq]
  · rename_i hn
    simp only [reduceCtorEq, false_iff, not_and]
    intro h
    exact absurd h (hn v)

/-- **Self-assertion is not enough.** A constraint on a claim that holds is about an agent with
a record, and about a value that the record bears out: under the bundle protocol the registered
claims are the asserted ones, signed by the registered key, and by key the registered claim has
the compared value as its string form. -/
theorem corroborated_of_verdict {d : Directory} {protocol : Protocol} {clock : Clock}
    {now : Time.Instant} {c : Constraint} {agent : Agent} (hkey : c.key ≠ evaluationTime)
    (h : d.verdict protocol clock now c agent = true) :
    ∃ p r claims v,
      agent.Presents "client_id" p ∧ d.lookup p = some r ∧ agent.claims = .ok claims ∧
      (c.key = "participant_id" → v = p) ∧
      (c.key ≠ "participant_id" →
        claims.get? c.key = some (.text v) ∧ Text.isBlank v = false) ∧
      comparison c.key c.operator v c.right = .ok true ∧
      (protocol = .bundle → r.claims.same claims = true ∧
        ∃ s key signature, agent.Presents "signedClaims" s ∧
          PublicKey.ofPem r.publicKeyPem = .ok key ∧ Signature.ofBase64 s = .ok signature ∧
          key.verify claims.canonical signature = .ok ()) ∧
      (protocol = .perKey → c.key ≠ "participant_id" →
        ∃ w, r.claims.get? c.key = some w ∧ w.display = v) := by
  obtain ⟨p, claims, v, hp, hclaims, hv, ⟨r, hr, hd⟩, hc⟩ :=
    (Directory.verdict_eq_true_iff hkey).1 h
  refine ⟨p, r, claims, v, Agent.clientId_eq_ok_iff.1 hp, hr, hclaims, ?_, ?_, hc, ?_, ?_⟩
  · intro hown
    rw [subject?, if_pos (show c.key = Rule.participantId.claimKey from hown)] at hv
    exact (Option.some.inj hv).symm
  · intro hown
    rw [subject?, if_neg (show c.key ≠ Rule.participantId.claimKey from hown)] at hv
    exact ClaimSet.text?_eq_some_iff.1 hv
  · rintro rfl
    obtain ⟨hsame, s, hs, hverify⟩ := hd
    obtain ⟨key, signature, hpem, hsig, hok⟩ := verifySignaturePem_iff.1 hverify
    exact ⟨hsame, s, key, signature, Agent.text?_eq_some_iff.1 hs, hpem, hsig, hok⟩
  · rintro rfl
    exact hd

/-- A participant that is registered with two claims and judged by one of them. -/
theorem corroborated_location :
    ∃ (d : Directory) (c : Constraint) (agent : Agent), c.key ≠ evaluationTime ∧
      d.verdict .perKey .system ⟨0, 0⟩ c agent = true ∧
      ∃ p r v w, agent.Presents "client_id" p ∧ d.lookup p = some r ∧
        r.claims.get? c.key = some w ∧ w.display = v ∧
        comparison c.key c.operator v c.right = .ok true := by
  let claims := (ClaimSet.empty.insert "tier" (.flag true)).insert "location" (.text "eu")
  let d := Directory.empty.register "p" ⟨"", claims⟩
  let c : Constraint := ⟨"ns/location", .eq, .string "eu"⟩
  have hkey : c.key ≠ evaluationTime := by decide
  have h : d.verdict .perKey .system ⟨0, 0⟩ c (.ofIdentity "p" claims "") = true := by decide
  obtain ⟨p, r, -, v, hp, hr, -, -, -, hv, -, hw⟩ := corroborated_of_verdict hkey h
  obtain ⟨w, hget, hdisplay⟩ := hw rfl (by decide)
  exact ⟨d, c, _, hkey, h, p, r, v, w, hp, hr, hget, hdisplay, hv⟩

end Attestation
