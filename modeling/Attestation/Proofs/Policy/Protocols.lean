import Attestation.Proofs.Policy.Honesty

/-!
How the two protocols compare, and how little a verdict by key rests on.

What holds when the whole signed claim set is verified also holds by key, and by key no claim
but the constrained one counts, neither asserted nor registered, nor any signature or key.
-/

namespace Attestation

open Policy

lemma ClaimSet.text?_congr {s t : ClaimSet} {key : String} (h : s.get? key = t.get? key) :
    s.text? key = t.text? key := by
  unfold text?
  rw [h]

lemma Policy.subject?_congr {s t : ClaimSet} {key : String} (h : s.get? key = t.get? key)
    (participant : String) : subject? key participant s = subject? key participant t := by
  unfold subject?
  rw [ClaimSet.text?_congr h]

namespace Directory

variable {d e : Directory} {clock : Clock} {now : Time.Instant} {c : Constraint}

/-- A constraint on the time comes out as the comparison of times does, whoever asks. -/
lemma verdict_of_time (hkey : c.key = evaluationTime) (d : Directory) (protocol : Protocol)
    (agent : Agent) : d.verdict protocol clock now c agent =
      (compareTime (clock.read now) c.operator c.right).toOption.getD false := by
  unfold verdict
  rw [evaluate_standard, if_pos hkey]
  dsimp only [Decider.evaluate, judgeTime]
  cases compareTime (clock.read now) c.operator c.right <;> rfl

/-- **The bundle protocol is at least as strict as the protocol by key.** -/
theorem verdict_perKey_of_bundle {agent : Agent}
    (h : d.verdict .bundle clock now c agent = true) :
    d.verdict .perKey clock now c agent = true := by
  by_cases hkey : c.key = evaluationTime
  · rwa [verdict_of_time hkey] at h ⊢
  · obtain ⟨p, claims, v, hp, hclaims, hv, hd, hc⟩ := (verdict_eq_true_iff hkey).1 h
    exact (verdict_eq_true_iff hkey).2 ⟨p, claims, v, hp, hclaims, hv, hd.perKey hv, hc⟩

/-- An honest participant's constraint holds by both protocols. -/
theorem verdict_perKey_of_bundle_sample :
    ∃ (d : Directory) (agent : Agent),
      d.verdict .bundle .system ⟨0, 0⟩ ⟨"ns/location", .eq, .string "eu"⟩ agent = true ∧
      d.verdict .perKey .system ⟨0, 0⟩ ⟨"ns/location", .eq, .string "eu"⟩ agent = true := by
  let k : SigningKey := ⟨⟨List.replicate 32 7, rfl⟩⟩
  let claims := ClaimSet.ofList [("location", .text "eu"), ("tier", .flag true)]
  let d := Directory.empty.register "p" ⟨k.publicKey.pem, claims⟩
  have hd : d.Registers "p" k.publicKey claims := registers_register _ _ _ _
  have hbundle : d.verdict .bundle .system ⟨0, 0⟩ ⟨"ns/location", .eq, .string "eu"⟩
      (.ofIdentity "p" claims (k.signClaims claims)) = true :=
    (verdict_eq_true_iff (by decide)).2 ⟨"p", claims, "eu", Agent.clientId_ofIdentity (by decide),
      Agent.claims_ofIdentity, by decide, hd.vouches (by decide), rfl⟩
  exact ⟨d, _, hbundle, verdict_perKey_of_bundle hbundle⟩

end Directory

/-! ### What a verdict by key rests on -/

/-- The agents name themselves alike, and what they assert under `key` is the same. -/
def Agent.AgreesOn (a b : Agent) (key : String) : Prop :=
  a.clientId = b.clientId ∧
    ∃ s t, a.claims = .ok s ∧ b.claims = .ok t ∧ s.get? key = t.get? key

/-- Both directories have a record of the participant `id`, with the same under `key`. -/
def Directory.AgreesOn (d e : Directory) (id key : String) : Prop :=
  ∃ r s, d.lookup id = some r ∧ e.lookup id = some s ∧ r.claims.get? key = s.claims.get? key

lemma Agent.AgreesOn.symm {a b : Agent} {key : String} (h : a.AgreesOn b key) :
    b.AgreesOn a key := by
  obtain ⟨hid, s, t, hs, ht, hget⟩ := h
  exact ⟨hid.symm, t, s, ht, hs, hget.symm⟩

namespace Directory

variable {d e : Directory} {clock : Clock} {now : Time.Instant} {c : Constraint}

lemma AgreesOn.symm {id key : String} (h : d.AgreesOn e id key) : e.AgreesOn d id key := by
  obtain ⟨r, s, hr, hs, hget⟩ := h
  exact ⟨s, r, hs, hr, hget.symm⟩

lemma AgreesOn.vouches {a b : Agent} {id key v : String} {claims claims' : ClaimSet}
    (h : d.AgreesOn e id key) (hd : d.Vouches .perKey a id claims key v) :
    e.Vouches .perKey b id claims' key v := by
  obtain ⟨r, s, hr, hs, hget⟩ := h
  obtain ⟨r', hr', hregistered⟩ := hd
  obtain rfl : r = r' := Option.some.inj (hr.symm.trans hr')
  refine ⟨s, hs, fun hown => ?_⟩
  rw [← hget]
  exact hregistered hown

/-- A constraint that holds by key also holds where all that is addressed is the same. -/
lemma verdict_of_agreesOn {a b : Agent} (hagents : a.AgreesOn b c.key)
    (hrecords : ∀ id, a.clientId = .ok id → d.AgreesOn e id c.key)
    (h : d.verdict .perKey clock now c a = true) : e.verdict .perKey clock now c b = true := by
  by_cases hkey : c.key = evaluationTime
  · rwa [verdict_of_time hkey] at h ⊢
  · obtain ⟨p, claims, v, hp, hclaims, hv, hd, hc⟩ := (verdict_eq_true_iff hkey).1 h
    obtain ⟨hid, s, t, hs, ht, hget⟩ := hagents
    obtain rfl : s = claims := Except.ok.inj (hs.symm.trans hclaims)
    exact (verdict_eq_true_iff hkey).2 ⟨p, t, v, hid.symm.trans hp, ht,
      (subject?_congr hget p).symm.trans hv, (hrecords p hp).vouches hd, hc⟩

/-- **By key a verdict depends on nothing but the addressed claim.** Two agents of one name that
assert the same under the constrained key are judged alike by two directories that have the same
registered under it, whatever else is asserted, signed or registered. -/
theorem verdict_perKey_congr {a b : Agent} (hagents : a.AgreesOn b c.key)
    (hrecords : ∀ id, a.clientId = .ok id → d.AgreesOn e id c.key) :
    d.verdict .perKey clock now c a = e.verdict .perKey clock now c b := by
  rw [Bool.eq_iff_iff]
  refine ⟨verdict_of_agreesOn hagents hrecords, verdict_of_agreesOn hagents.symm fun id hid => ?_⟩
  exact (hrecords id (hagents.1.trans hid)).symm

/-- Other claims, another key and another signature make no difference to a location. -/
theorem verdict_perKey_congr_sample :
    ∃ (d e : Directory) (a b : Agent) (c : Constraint),
      a.AgreesOn b c.key ∧ (∀ id, a.clientId = .ok id → d.AgreesOn e id c.key) ∧
      a.signedClaims? ≠ b.signedClaims? ∧ d.verdict .perKey .system ⟨0, 0⟩ c a = true ∧
      e.verdict .perKey .system ⟨0, 0⟩ c b = true := by
  let claims := ClaimSet.ofList [("location", .text "eu"), ("tier", .flag true)]
  let others := ClaimSet.ofList [("location", .text "eu"), ("owner", .text "q")]
  let d := Directory.empty.register "p" ⟨"", claims⟩
  let e := (Directory.empty.register "p" ⟨"a key", others⟩).register "q" ⟨"", claims⟩
  let a := Agent.ofIdentity "p" others "c2ln"
  let b := Agent.ofIdentity "p" claims ""
  let c : Constraint := ⟨"ns/location", .eq, .string "eu"⟩
  have hid : ∀ claims signature, (Agent.ofIdentity "p" claims signature).clientId = .ok "p" :=
    fun _ _ => Agent.clientId_ofIdentity (by decide)
  have hkey : c.key = "location" := by decide
  have hget : others.get? c.key = claims.get? c.key := by
    rw [hkey]
    rfl
  have hagents : a.AgreesOn b c.key :=
    ⟨(hid _ _).trans (hid _ _).symm, others, claims, Agent.claims_ofIdentity,
      Agent.claims_ofIdentity, hget⟩
  have hrecords : ∀ id, a.clientId = .ok id → d.AgreesOn e id c.key := by
    intro id h
    obtain rfl : "p" = id := Except.ok.inj ((hid _ _).symm.trans h)
    exact ⟨⟨"", claims⟩, ⟨"a key", others⟩, rfl, rfl, hget.symm⟩
  have h : d.verdict .perKey .system ⟨0, 0⟩ c a = true := by decide
  exact ⟨d, e, a, b, c, hagents, hrecords, by decide, h,
    (verdict_perKey_congr hagents hrecords).symm.trans h⟩

end Directory

end Attestation
