import Attestation.Proofs.Claims.Routes
import Attestation.Proofs.Json.Value
import Attestation.Proofs.Policy.Honesty
import Attestation.Proofs.Registry.Wire

/-!
How claims are carried makes no difference to how an agent is judged: as a value in the agent, in
the text of the whole agent, or as a text of their own in place of the value.
-/

namespace Attestation

open Policy
open Json (depthLimit)

/-! ### What is read of an agent -/

namespace Agent

variable {a b : Agent}

/-- Whatever is to be decided, and whatever the registry answers, the same comes of both agents:
the verdict, what is asked, and what is warned of. -/
def JudgedAlike (a b : Agent) : Prop :=
  ∀ (e : Engine) (now : Time.Instant) (c : Constraint) (σ : Type)
    (source : (q : Registry.Query) → σ → Registry.Answer q × σ) (s : σ),
    (e.evaluate now c a).play source s = (e.evaluate now c b).play source s

section Congr

variable (hid : a.clientId = b.clientId) (hclaims : a.claims = b.claims)
  (hsigned : a.signedClaims? = b.signedClaims?)

include hid hclaims hsigned

lemma assertionOf_congr (protocol : Protocol) (key : String) (own : Bool) :
    assertionOf protocol a key own = assertionOf protocol b key own := by
  have hrequester : Requester.ofAgent a = Requester.ofAgent b := by
    simp only [Requester.ofAgent, hid, hclaims]
  have hcorroboration : corroboration protocol a = corroboration protocol b := by
    funext r key value own
    simp only [corroboration, hsigned]
  simp only [assertionOf, hrequester, hcorroboration]

/-- A decider reads nothing of an agent but its name, its claims and its signature. -/
lemma evaluate_congr (d : Decider) (now : Time.Instant) (c : Constraint) :
    d.evaluate now c a = d.evaluate now c b := by
  have hrejection : ∀ key op, rejection key op a = rejection key op b := by
    intro key op
    funext e
    simp only [rejection, hid]
  cases d with
  | time clock => rfl
  | rule r protocol =>
    simp only [Decider.evaluate, ruleAssertion_eq, hrejection,
      assertionOf_congr hid hclaims hsigned]
  | dynamic protocol =>
    simp only [Decider.evaluate, dynamicAssertion_eq, hrejection,
      assertionOf_congr hid hclaims hsigned]

lemma judgedAlike_of_eq : a.JudgedAlike b := by
  intro e now c σ source s
  unfold Engine.evaluate
  cases e.deciderFor c.key with
  | none => rfl
  | some d =>
    dsimp only
    rw [evaluate_congr hid hclaims hsigned]

end Congr

/-! ### Agents and claims in text -/

/-- An agent is read back from the texts of its attributes. -/
lemma parse?_of_mem_texts (h : a.json.Ordered) (hdepth : a.json.depth < depthLimit)
    (hreals : ∀ x hx, .real x hx ∈ a.json.numbers → (Json.Number.real x hx).ReadsBack) {t : String}
    (ht : t ∈ a.json.texts) : parse? t = some a := by
  rw [parse?, Json.parse_of_mem_texts h hdepth hreals ht]
  rfl

lemma attribute?_withAttribute (name name' : String) (v : Json) :
    (a.withAttribute name' v).attribute? name =
      if name = name' then some v else a.attribute? name :=
  Keyed.find?_insert name name' v a.attributes

lemma text?_withAttribute_of_ne {name name' : String} (h : name ≠ name') (v : Json) :
    (a.withAttribute name' v).text? name = a.text? name := by
  rw [text?, attribute?_withAttribute, if_neg h, text?]

variable {claims : ClaimSet} {t : String}

/-- Claims are read back from a text of theirs that stands in their place. -/
lemma claims_of_mem_texts (hdepth : claims.json.depth < depthLimit) (hreals : claims.RealsReadBack)
    (ht : t ∈ claims.json.texts) (ha : a.attribute? "claims" = some (.string t)) :
    a.claims = .ok claims := by
  have hparse : Json.parse t = some claims.json :=
    Json.parse_of_mem_texts claims.ordered_json hdepth hreals ht
  rw [claims_eq_ok_iff ha, hparse]
  exact claims.ofJson?_json

/-- Putting a text of the claims in their place goes unnoticed. -/
lemma judgedAlike_withAttribute {id signature : String} (hdepth : claims.json.depth < depthLimit)
    (hreals : claims.RealsReadBack) (ht : t ∈ claims.json.texts) :
    (ofIdentity id claims signature).JudgedAlike
      ((ofIdentity id claims signature).withAttribute "claims" (.string t)) := by
  refine judgedAlike_of_eq ?_ ?_ ?_
  · rw [clientId, clientId, text?_withAttribute_of_ne (by decide)]
  · rw [claims_ofIdentity, claims_of_mem_texts hdepth hreals ht]
    rw [attribute?_withAttribute, if_pos rfl]
  · rw [signedClaims?, signedClaims?, text?_withAttribute_of_ne (by decide)]

end Agent

namespace Identity

variable {i : Identity}

/-- The three attributes of a token, with `v` for the claims. -/
def attributes (i : Identity) (v : Json) : Json :=
  .object [("claims", v), ("client_id", .string i.participant),
    ("signedClaims", .string i.signed.signature)]

lemma json_token (i : Identity) : i.token.json = i.attributes i.signed.claims.json := rfl

lemma json_token_withAttribute (i : Identity) (v : Json) :
    (i.token.withAttribute "claims" v).json = i.attributes v := rfl

lemma ordered_attributes {v : Json} (h : v.Ordered) : (i.attributes v).Ordered := by
  have hclaims : ∀ k ∈ ["client_id", "signedClaims"], "claims" < k := by decide
  have hid : ∀ k ∈ ["signedClaims"], "client_id" < k := by decide
  exact ⟨hclaims, h, hid, trivial, fun k hk => absurd hk List.not_mem_nil, trivial, trivial⟩

/-- An agent with these attributes is read back as soon as the value for the claims would be. -/
lemma parse?_of_mem_texts_attributes {v : Json} {a : Agent} {t : String}
    (ha : a.json = i.attributes v) (h : v.Ordered) (hdepth : v.depth ≤ 126)
    (hreals : ∀ x hx, .real x hx ∈ v.numbers → (Json.Number.real x hx).ReadsBack)
    (ht : t ∈ a.json.texts) : Agent.parse? t = some a := by
  refine Agent.parse?_of_mem_texts ?_ ?_ ?_ ht
  · exact ha ▸ ordered_attributes h
  · simp only [ha, attributes, Json.depth, Json.depthMembers, depthLimit]
    omega
  · simpa [ha, attributes, Json.numbers, Json.numbersOfMembers] using hreals

/-- **How claims are carried does not change the verdict.** The token of a participant, the agent
that is read from a text of the token, and the token with a text of the claims in place of the
claims are judged alike by every engine, with the same question to the registry; and so is the
agent that is read from a text of the last. -/
theorem judgedAlike_token (hdepth : i.signed.claims.json.depth ≤ 126)
    (hreals : i.signed.claims.RealsReadBack) :
    (∀ t ∈ i.token.json.texts, ∃ b, Agent.parse? t = some b ∧ i.token.JudgedAlike b) ∧
      ∀ t ∈ i.signed.claims.json.texts,
        i.token.JudgedAlike (i.token.withAttribute "claims" (.string t)) ∧
          ∀ u ∈ (i.token.withAttribute "claims" (.string t)).json.texts,
            ∃ b, Agent.parse? u = some b ∧ i.token.JudgedAlike b := by
  refine ⟨fun t ht => ?_, fun t ht => ?_⟩
  · have hparse : Agent.parse? t = some i.token := parse?_of_mem_texts_attributes i.json_token
      i.signed.claims.ordered_json hdepth hreals ht
    exact ⟨i.token, hparse, fun _ _ _ _ _ _ => rfl⟩
  · have halike : i.token.JudgedAlike (i.token.withAttribute "claims" (.string t)) :=
      Agent.judgedAlike_withAttribute (Nat.lt_of_le_of_lt hdepth (by decide)) hreals ht
    refine ⟨halike, fun u hu => ⟨_, ?_, halike⟩⟩
    exact parse?_of_mem_texts_attributes (i.json_token_withAttribute (.string t)) trivial
      (Nat.zero_le _) (by simp [Json.numbers]) hu

/-- Claims with numbers of every kind and a set of their own. -/
theorem judgedAlike_token_sample : ∃ i : Identity,
    i.signed.claims = Directory.Sample.claims ∧ i.signed.claims.json.depth ≤ 126 ∧
      i.signed.claims.RealsReadBack ∧
      (∃ b, Agent.parse? i.token.json.pretty = some b ∧ i.token.JudgedAlike b) ∧
      i.token.JudgedAlike (i.token.withAttribute "claims" (.string i.signed.claims.json.text)) := by
  let k : SigningKey := ⟨⟨List.replicate 32 7, rfl⟩⟩
  let i : Identity := ⟨"alice", ⟨k, k.publicKey, k.keysMatch_publicKey⟩,
    .sign Directory.Sample.claims k⟩
  have hdepth : i.signed.claims.json.depth ≤ 126 := by
    change Directory.Sample.claims.json.depth ≤ 126
    decide
  have hreals : i.signed.claims.RealsReadBack := Directory.Sample.realsReadBack_claims
  obtain ⟨hparsed, hplaced⟩ := judgedAlike_token hdepth hreals
  exact ⟨i, rfl, hdepth, hreals, hparsed _ (List.mem_cons_of_mem _ List.mem_cons_self),
    (hplaced _ List.mem_cons_self).1⟩

end Identity

end Attestation
