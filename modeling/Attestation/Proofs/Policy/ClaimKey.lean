import Attestation.Proofs.Claims.Building
import Attestation.Proofs.Policy.Inquiry
import Attestation.Proofs.Text.Runs
import Mathlib.Data.List.DropRight

/-!
Left operands and the claim keys that they come down to.

An operand counts for its last segment alone. Whatever stands before that changes neither the
verdict nor the question to the registry, and two operands that come down to different keys can be
told apart by the question.
-/

namespace Attestation

/-! ### Keys -/

lemma claimKeyChars_eq (s : List Char) : claimKeyChars s =
    if s.rtakeWhile (· != '/') = [] then s else s.rtakeWhile (· != '/') := by
  rw [claimKeyChars, List.rtakeWhile]
  simp only [List.isEmpty_iff]

lemma claimKeyChars_claimKeyChars (s : List Char) :
    claimKeyChars (claimKeyChars s) = claimKeyChars s := by
  by_cases h : s.rtakeWhile (· != '/') = []
  · have hwhole : claimKeyChars s = s := by rw [claimKeyChars_eq, if_pos h]
    rw [hwhole, hwhole]
  · have hlast : claimKeyChars s = s.rtakeWhile (· != '/') := by rw [claimKeyChars_eq, if_neg h]
    rw [hlast, claimKeyChars_eq, List.rtakeWhile_idempotent, if_neg h]

/-- What follows the last slash is the key, if it is anything. -/
lemma claimKeyChars_append {k : List Char} (hne : k ≠ []) (hk : '/' ∉ k) (before : List Char) :
    claimKeyChars (before ++ '/' :: k) = k := by
  have hlast : (before ++ '/' :: k).rtakeWhile (· != '/') = k := Text.rtakeWhile_append
    (fun c hc => bne_iff_ne.2 (ne_of_mem_of_not_mem hc hk)) rfl before
  rw [claimKeyChars_eq, hlast, if_neg hne]

lemma claimKey_claimKey (left : String) : claimKey (claimKey left) = claimKey left := by
  rw [claimKey, claimKey, String.toList_ofList, claimKeyChars_claimKeyChars]

lemma claimKey_append {k : String} (hne : k ≠ "") (hk : '/' ∉ k.toList) (before : String) :
    claimKey (before ++ "/" ++ k) = k := by
  have hchars : (before ++ "/" ++ k).toList = before.toList ++ '/' :: k.toList := by
    simp
  rw [claimKey, hchars, claimKeyChars_append (by simpa using hne) hk, String.ofList_toList]

namespace Policy

/-! ### Operands with the same key -/

/-- With either left operand a constraint comes out alike, whatever the registry answers: the same
verdict, the same question, the same warnings. -/
def Interchangeable (left left' : String) : Prop :=
  ∀ (protocol : Protocol) (clock : Clock) (now : Time.Instant) (op : Operator) (right : Json)
    (agent : Agent) (σ : Type) (source : (q : Registry.Query) → σ → Registry.Answer q × σ) (s : σ),
    ((Engine.standard protocol clock).evaluate now ⟨left, op, right⟩ agent).play source s =
      ((Engine.standard protocol clock).evaluate now ⟨left', op, right⟩ agent).play source s

/-- No engine looks at more of a left operand than its key, neither to find who decides nor to
decide. -/
lemma evaluate_of_claimKey_eq {left left' : String} (h : claimKey left = claimKey left')
    (e : Engine) (now : Time.Instant) (op : Operator) (right : Json) (agent : Agent) :
    e.evaluate now ⟨left, op, right⟩ agent = e.evaluate now ⟨left', op, right⟩ agent := by
  have hdecider (d : Decider) : d.evaluate now ⟨left, op, right⟩ agent =
      d.evaluate now ⟨left', op, right⟩ agent := by
    cases d with
    | rule r protocol => rfl
    | time clock => rfl
    | dynamic protocol => simp only [Decider.evaluate, Constraint.key, h]
  simp only [Engine.evaluate, Constraint.key, h, hdecider]

lemma interchangeable_of_claimKey_eq {left left' : String} (h : claimKey left = claimKey left') :
    Interchangeable left left' := by
  intro protocol clock now op right agent σ source s
  rw [evaluate_of_claimKey_eq h]

/-! ### Operands with different keys -/

lemma supports_eq (key : String) : supports key .eq = true := by
  unfold supports
  cases hr : Rule.builtin? key with
  | none => rfl
  | some r =>
    have hall : ∀ r ∈ Rule.builtin, r.allows .eq = true := by decide
    exact hall r (List.mem_of_find?_eq_some hr)

/-- The question about the text `v` under `key`, by key, of a participant that asserts it. -/
def questionFor (participant key v : String) : Option Registry.Query :=
  if key = evaluationTime then none
  else some (if key = "participant_id" then .fetch participant else .byKey key v participant)

lemma questionFor_injective {participant v key key' : String}
    (h : questionFor participant key v = questionFor participant key' v) : key = key' := by
  unfold questionFor at h
  split_ifs at h <;> simp_all

/-- An equality is asked about whatever else the agent asserts. -/
lemma question?_eq {key id v signature : String} {claims : ClaimSet}
    (hid : Text.isBlank id = false) (hget : claims.get? key = some (.text v))
    (hv : Text.isBlank v = false) :
    question? .perKey key .eq (.ofIdentity id claims signature) = questionFor id key v := by
  unfold questionFor
  split_ifs with htime hown
  · exact if_pos (.inl htime)
  · exact question?_eq_some_iff.2 ⟨htime, supports_eq key, id, claims, id,
      Agent.clientId_eq_ok_iff.1 (Agent.clientId_ofIdentity hid), Agent.claims_ofIdentity,
      subject?_eq_some_iff.2 (.inl ⟨hown, rfl⟩),
      corroboration_perKey_iff.2 (if_pos (beq_iff_eq.2 hown)).symm⟩
  · exact question?_eq_some_iff.2 ⟨htime, supports_eq key, id, claims, v,
      Agent.clientId_eq_ok_iff.1 (Agent.clientId_ofIdentity hid), Agent.claims_ofIdentity,
      subject?_eq_some_iff.2 (.inr ⟨hown, hget, hv⟩),
      corroboration_perKey_iff.2 (if_neg (by simpa using hown)).symm⟩

/-- There are claims with a text under any two keys. -/
lemma exists_asserted (j k : String) : ∃ claims : ClaimSet,
    claims.get? j = some (.text "v") ∧ claims.get? k = some (.text "v") := by
  refine ⟨(ClaimSet.empty.insert j (.text "v")).insert k (.text "v"), ?_, ?_⟩ <;>
    simp [ClaimSet.get?_insert, Claim.text]

/-- Of an agent that asserts a text under both keys, each of them raises a question of its own. -/
lemma claimKey_eq_of_interchangeable {left left' : String} (h : Interchangeable left left') :
    claimKey left = claimKey left' := by
  obtain ⟨claims, hget, hget'⟩ := exists_asserted (claimKey left) (claimKey left')
  have hplay := h .perKey .system ⟨0, 0⟩ .eq .null (.ofIdentity "p" claims "") Unit
    (fun q s => (Directory.empty.reply q, s)) ()
  have hasked := congrArg (fun p => p.1.asked.head?) hplay
  simp only [asked_standard, Option.head?_toList, Constraint.key] at hasked
  rw [question?_eq (by decide) hget (by decide), question?_eq (by decide) hget' (by decide)]
    at hasked
  exact questionFor_injective hasked

/-- **Only the last segment of a left operand matters.** To come down to a key is done once and for
all, the key is what follows a slash and has none itself, and exactly the operands that come down to
one key are interchangeable, an operand and its key among them. -/
theorem last_segment_matters (left left' : String) :
    claimKey (claimKey left) = claimKey left ∧
      (∀ before key, key ≠ "" → '/' ∉ key.toList → claimKey (before ++ "/" ++ key) = key) ∧
      Interchangeable left (claimKey left) ∧
      (Interchangeable left left' ↔ claimKey left = claimKey left') :=
  ⟨claimKey_claimKey left, fun before _ hne hkey => claimKey_append hne hkey before,
    interchangeable_of_claimKey_eq (claimKey_claimKey left).symm,
    claimKey_eq_of_interchangeable, interchangeable_of_claimKey_eq⟩

/-- Two namespaces of one claim, and a slash at the end that belongs to the key. -/
theorem last_segment_matters_location :
    "location" ≠ "" ∧ '/' ∉ "location".toList ∧
      claimKey ("https://w3id.org/edc/v0.0.1/ns" ++ "/" ++ "location") = "location" ∧
      Interchangeable "https://w3id.org/edc/v0.0.1/ns/location" "a//location" ∧
      ¬ Interchangeable "location/" "location" := by
  have hne : "location" ≠ "" := by decide
  have hkey : '/' ∉ "location".toList := by decide
  obtain ⟨-, happend, -, halike⟩ :=
    last_segment_matters "https://w3id.org/edc/v0.0.1/ns/location" "a//location"
  obtain ⟨-, -, -, hdiffer⟩ := last_segment_matters "location/" "location"
  exact ⟨hne, hkey, happend "https://w3id.org/edc/v0.0.1/ns" "location" hne hkey,
    halike.2 (by decide), fun h => absurd (hdiffer.1 h) (by decide)⟩

end Policy

end Attestation
