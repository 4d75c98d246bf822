import Attestation.Proofs.Computation
import Attestation.Proofs.Json.Record
import Attestation.Proofs.Json.Reading
import Attestation.Proofs.Text.Bytes
import Attestation.Proofs.Registry.Wire
import Attestation.Proofs.Text.Runs
import Attestation.Registry.Client

/-!
What a client takes from the answers it gets: nothing but a complete answer of the right status
and shape counts, and every such answer does.
-/

namespace Attestation.Registry

open Json (Draft)

/-! ### Bodies -/

/-- The bytes are JSON, and what they spell out has the property. A string that is not looked at
may have any bytes in it. -/
def Holds (body : List UInt8) (P : Draft → Prop) : Prop :=
  ∃ d, Draft.parseBytes body = some d ∧ P d

/-- **A body that is a text holds what the text spells out.** -/
theorem holds_utf8_iff {t : String} {P : Draft → Prop} :
    Holds (Text.utf8 t) P ↔ ∃ d, Draft.parse t.toList = some d ∧ P d := by
  rw [Holds, Json.parseBytes_utf8]

lemma ofBody?_eq_some_iff {α : Type} {read : Draft → Option α} {body : List UInt8} {a : α} :
    ofBody? read body = some a ↔ Holds body fun d => read d = some a :=
  Option.bind_eq_some_iff

/-- A byte that is no UTF-8, in a member that is not looked at. -/
example : (ofBody? ClaimsResponse.ofDraft? (Text.utf8 "\x7b\"claims\":\x7b\x7d,\"x\":\"" ++
    0xFF :: Text.utf8 "\"\x7d")).isSome = true := by
  decide +kernel

namespace TypedFlag

/-- The word for `b` in any case, with white space around it or not. -/
def Says (f : TypedFlag) (b : Bool) : Prop :=
  ∃ before word after, f.valueType.toList = before ++ word ++ after ∧
    (∀ c ∈ before, Text.isSpace c = true) ∧ (∀ c ∈ after, Text.isSpace c = true) ∧
    word.map Char.toLower = Json.boolChars b

lemma isSpace_eq_false_of_toLower {c : Char} {b : Bool} (h : c.toLower ∈ Json.boolChars b) :
    Text.isSpace c = false := by
  by_contra hspace
  have hlower : c.toLower = c := by
    unfold Char.toLower
    rw [dif_neg]
    rintro ⟨h1, h2⟩
    have hval : c.toNat = c.val.toNat := rfl
    simp [Text.isSpace] at hspace
    simp [UInt32.le_iff_toNat_le] at h1 h2
    omega
  have hletters : ∀ b, (Json.boolChars b).all (!Text.isSpace ·) = true := by decide
  have hc := List.all_eq_true.1 (hletters b) c (hlower ▸ h)
  simp [hspace] at hc

lemma trimmed_iff {f : TypedFlag} {b : Bool} :
    (Text.trimChars f.valueType.toList).map Char.toLower = Json.boolChars b ↔ f.Says b := by
  constructor
  · intro h
    obtain ⟨before, after, heq, hbefore, hafter⟩ :=
      Text.exists_eq_append_trimChars f.valueType.toList
    exact ⟨before, _, after, heq, hbefore, hafter, h⟩
  · rintro ⟨before, word, after, heq, hbefore, hafter, hword⟩
    rw [heq, Text.trimChars_append hbefore hafter, hword]
    exact fun c hc => isSpace_eq_false_of_toLower (hword ▸ List.mem_map_of_mem hc)

/-- **A flag has the value that it says.** -/
theorem value_eq_ok_iff {f : TypedFlag} {b : Bool} : f.value = .ok b ↔ f.Says b := by
  rw [← trimmed_iff]
  unfold value
  dsimp only
  split_ifs with h1 h2
  · cases b <;> simp [h1, Json.boolChars]
  · cases b <;> simp [h2, Json.boolChars]
  · cases b <;> simp [h1, h2, Json.boolChars]

/-- A record of just the flag's text. -/
def SpelledBy (f : TypedFlag) (d : Draft) : Prop :=
  d.Spells ["valueType"] [.string (some f.valueType)]

lemma ofDraft?_eq_some_iff {d : Draft} {f : TypedFlag} : ofDraft? d = some f ↔ f.SpelledBy d := by
  rw [SpelledBy, ← Draft.fields?_eq_given_iff]
  unfold ofDraft?
  simp only [Option.bind_eq_bind, Option.bind_eq_some_iff]
  constructor
  · rintro ⟨fields, hfields, h⟩
    split at h
    · obtain ⟨v, hv, hf⟩ := Option.bind_eq_some_iff.1 h
      cases hf
      obtain ⟨e, rfl, he⟩ := Json.Field.required_eq_some_iff.1 hv
      rw [hfields, Json.Draft.string?_eq_some_iff.1 he]
      rfl
    · cases h
  · exact fun h => ⟨_, h, rfl⟩

end TypedFlag

namespace BundleResponse

/-- A record of the two flags. -/
def SpelledBy (r : BundleResponse) (d : Draft) : Prop :=
  ∃ s c, d.Spells ["verifySignatureSuccess", "verifyClaimsSuccess"] [s, c] ∧
    r.signature.SpelledBy s ∧ r.claims.SpelledBy c

lemma ofDraft?_eq_some_iff {d : Draft} {r : BundleResponse} :
    ofDraft? d = some r ↔ r.SpelledBy d := by
  unfold SpelledBy
  simp only [← Draft.fields?_eq_given_iff, ← TypedFlag.ofDraft?_eq_some_iff]
  unfold ofDraft?
  simp only [Option.bind_eq_bind, Option.bind_eq_some_iff]
  constructor
  · rintro ⟨fields, hfields, h⟩
    split at h
    · simp only [Option.bind_eq_some_iff, Json.Field.required_eq_some_iff] at h
      obtain ⟨signature, ⟨s, rfl, hs⟩, claims, ⟨c, rfl, hc⟩, h⟩ := h
      cases h
      exact ⟨s, c, hfields, hs, hc⟩
    · cases h
  · rintro ⟨s, c, hfields, hs, hc⟩
    exact ⟨_, hfields, by simp [Json.Field.required, hs, hc]⟩

end BundleResponse

namespace ClaimsResponse

/-- A record of just the claims. -/
def SpelledBy (r : ClaimsResponse) (d : Draft) : Prop :=
  ∃ c, d.Spells ["claims"] [c] ∧ ClaimSet.ofDraft? c = some r.claims

lemma ofDraft?_eq_some_iff {d : Draft} {r : ClaimsResponse} :
    ofDraft? d = some r ↔ r.SpelledBy d := by
  unfold SpelledBy
  simp only [← Draft.fields?_eq_given_iff]
  unfold ofDraft?
  simp only [Option.bind_eq_bind, Option.bind_eq_some_iff]
  constructor
  · rintro ⟨fields, hfields, h⟩
    split at h
    · simp only [Option.bind_eq_some_iff, Json.Field.required_eq_some_iff] at h
      obtain ⟨claims, ⟨c, rfl, hc⟩, h⟩ := h
      cases h
      exact ⟨c, hfields, hc⟩
    · cases h
  · rintro ⟨c, hfields, hc⟩
    exact ⟨_, hfields, by simp [Json.Field.required, hc]⟩

end ClaimsResponse

/-! ### Exchanges -/

/-- A request can be sent, and its reply arrived as a whole. -/
def Completes (r : Request) (reply : Reply) (status : ℕ) (body : List UInt8) : Prop :=
  Client.canSend r.url = true ∧ r.apiKey.all Client.fitsHeader = true ∧
    reply = .response status (some body)

namespace Client

variable {σ α : Type} (source : Request → σ → Reply × σ) (s : σ)

/-- What comes of a conversation when `source` replies. -/
def outcome (d : Conversation α) : α := (d.play source s).1.value

variable {source s}

lemma isNone_host?_of_canSend {url : Url} (h : canSend url = true) : url.host?.isNone = false := by
  simp only [canSend, Bool.and_eq_true] at h
  cases hhost : url.host? with
  | none => simp [hhost] at h
  | some host => rfl

/-- An exchange asks, if its request can be sent. -/
lemma exchange_of_canSend {wanted : ℕ → Bool} {read : Draft → Option α} {r : Request}
    (hurl : canSend r.url = true) (hkey : r.apiKey.all fitsHeader = true) :
    exchange wanted read r = .ask r fun reply => .done (received wanted read r.url reply) := by
  simp [exchange, isNone_host?_of_canSend hurl, hurl, hkey]

/-- Otherwise it fails at once. -/
lemma exists_exchange_eq_error (wanted : ℕ → Bool) (read : Draft → Option α) {r : Request}
    (h : ¬ (canSend r.url = true ∧ r.apiKey.all fitsHeader = true)) :
    ∃ e, exchange wanted read r = .done (.error e) := by
  unfold exchange
  split_ifs with hhost hkey hurl
  · exact ⟨_, rfl⟩
  · exact ⟨_, rfl⟩
  · exact ⟨_, rfl⟩
  · simp_all

lemma received_eq_ok_iff {wanted : ℕ → Bool} {read : Draft → Option α} {url : Url}
    {reply : Reply} {a : α} : received wanted read url reply = .ok a ↔
      ∃ status body, reply = .response status (some body) ∧ wanted status = true ∧
        Holds body fun d => read d = some a := by
  simp only [← ofBody?_eq_some_iff]
  rcases reply with _ | ⟨status, _ | body⟩
  · simp [received]
  · cases hwanted : wanted status <;> simp [received, hwanted]
  · cases hwanted : wanted status <;> cases hread : ofBody? read body <;>
      simp_all [received]

/-- **An exchange succeeds exactly when it is completed, has a wanted status and a body that is
read.** -/
theorem outcome_exchange_eq_ok_iff {wanted : ℕ → Bool} {read : Draft → Option α} {r : Request}
    {a : α} : outcome source s (exchange wanted read r) = .ok a ↔
      ∃ status body, Completes r (source r s).1 status body ∧ wanted status = true ∧
        Holds body fun d => read d = some a := by
  unfold Completes
  by_cases h : canSend r.url = true ∧ r.apiKey.all fitsHeader = true
  · have hplayed : outcome source s (exchange wanted read r) =
        received wanted read r.url (source r s).1 := by
      rw [exchange_of_canSend h.1 h.2]
      rfl
    rw [hplayed, received_eq_ok_iff]
    simp [h]
  · obtain ⟨e, he⟩ := exists_exchange_eq_error wanted read h
    rw [he]
    simp only [outcome, Dialogue.play]
    constructor
    · rintro ⟨⟩
    · rintro ⟨_, _, ⟨hurl, hkey, -⟩, -⟩
      exact absurd ⟨hurl, hkey⟩ h

lemma outcome_bind {β : Type} (d : Conversation α) (f : α → Conversation β) :
    outcome source s (d.bind f) = outcome source (d.play source s).2 (f (outcome source s d)) :=
  Dialogue.value_play_bind source d f s

lemma outcome_bind_done {β : Type} (d : Conversation α) (f : α → β) :
    outcome source s (d.bind fun a => .done (f a)) = f (outcome source s d) :=
  outcome_bind d _

end Client

/-- The reply to a bundle request is complete, its status tells of success, and the flags in it
say `a` and `b`. -/
def Client.Answers (c : Client) (id signature : String) (claims : ClaimSet) (reply : Reply)
    (a b : Bool) : Prop :=
  ∃ status body r, Completes (c.bundleRequest id signature claims) reply status body ∧
    200 ≤ status ∧ status < 300 ∧ Holds body (BundleResponse.SpelledBy r) ∧
    r.signature.Says a ∧ r.claims.Says b

lemma BundleResponse.exists_verification_iff {r : BundleResponse} {a b : Bool} :
    (∃ v, r.verification = .ok v ∧ v.signature = a ∧ v.claims = b) ↔
      r.signature.Says a ∧ r.claims.Says b := by
  simp only [← TypedFlag.value_eq_ok_iff, verification]
  cases r.signature.value <;> cases r.claims.value <;>
    simp [bind, Except.bind, pure, Except.pure]

namespace Client

section Answers

variable {σ : Type} {source : Request → σ → Reply × σ} {s : σ} {c : Client}
  {id signature : String} {claims : ClaimSet}

lemma exists_outcome_tryVerify_iff {a b : Bool} :
    (∃ v, outcome source s (c.tryVerify id signature claims) = .ok v ∧
        v.signature = a ∧ v.claims = b) ↔
      c.Answers id signature claims (source (c.bundleRequest id signature claims) s).1 a b := by
  rw [tryVerify, outcome_bind_done]
  constructor
  · rintro ⟨v, hv, hflags⟩
    obtain ⟨r, hr, hv⟩ := Except.bind_eq_ok_iff.1 hv
    obtain ⟨status, body, hdone, hstatus, hbody⟩ := outcome_exchange_eq_ok_iff.1 hr
    obtain ⟨h1, h2⟩ : 200 ≤ status ∧ status < 300 := by simpa [isSuccess] using hstatus
    simp only [BundleResponse.ofDraft?_eq_some_iff] at hbody
    exact ⟨status, body, r, hdone, h1, h2, hbody,
      BundleResponse.exists_verification_iff.1 ⟨v, hv, hflags⟩⟩
  · rintro ⟨status, body, r, hdone, h1, h2, hbody, hflags⟩
    obtain ⟨v, hv, hflags⟩ := BundleResponse.exists_verification_iff.2 hflags
    refine ⟨v, Except.bind_eq_ok_iff.2 ⟨r, outcome_exchange_eq_ok_iff.2 ?_, hv⟩, hflags⟩
    refine ⟨status, body, hdone, by simp [isSuccess, h1, h2], ?_⟩
    simpa only [BundleResponse.ofDraft?_eq_some_iff] using hbody

lemma outcome_verify : outcome source s (c.verify id signature claims) =
    match outcome source s (c.tryVerify id signature claims) with
    | .ok v => v
    | .error e => .failed e.message := by
  rw [verify, outcome_bind]
  cases outcome source s (c.tryVerify id signature claims) <;> rfl

lemma flags_outcome_verify {a b : Bool}
    (h : c.Answers id signature claims (source (c.bundleRequest id signature claims) s).1 a b) :
    (outcome source s (c.verify id signature claims)).signature = a ∧
      (outcome source s (c.verify id signature claims)).claims = b := by
  obtain ⟨v, hv, hflags⟩ := exists_outcome_tryVerify_iff.2 h
  rw [outcome_verify, hv]
  exact hflags

/-- Without an answer that counts both flags are false. -/
lemma flags_outcome_verify_of_not (h : ∀ a b,
    ¬ c.Answers id signature claims (source (c.bundleRequest id signature claims) s).1 a b) :
    (outcome source s (c.verify id signature claims)).signature = false ∧
      (outcome source s (c.verify id signature claims)).claims = false := by
  rw [outcome_verify]
  cases hv : outcome source s (c.tryVerify id signature claims) with
  | ok v => exact absurd (exists_outcome_tryVerify_iff.1 ⟨v, hv, rfl, rfl⟩) (h _ _)
  | error e => exact ⟨rfl, rfl⟩

lemma followsFlags_outcome_verify :
    (outcome source s (c.verify id signature claims)).FollowsFlags := by
  rw [outcome_verify]
  cases hv : outcome source s (c.tryVerify id signature claims) with
  | error e => exact Verification.followsFlags_new _ _ _
  | ok v =>
    rw [tryVerify, outcome_bind_done] at hv
    obtain ⟨r, -, hr⟩ := Except.bind_eq_ok_iff.1 hv
    exact BundleResponse.followsFlags_of_verification hr

lemma success_outcome_verify_iff :
    (outcome source s (c.verify id signature claims)).success = true ↔
      c.Answers id signature claims (source (c.bundleRequest id signature claims) s).1
        true true := by
  rw [followsFlags_outcome_verify, Bool.and_eq_true]
  refine ⟨?_, flags_outcome_verify⟩
  rintro ⟨h1, h2⟩
  by_contra hanswer
  have hnone : (outcome source s (c.verify id signature claims)).signature = false :=
    (flags_outcome_verify_of_not fun a b h => hanswer (by
      obtain ⟨rfl, rfl⟩ := flags_outcome_verify h
      rwa [h1, h2] at h)).1
  rw [h1] at hnone
  cases hnone

lemma outcome_fetch_eq_ok_iff : outcome source s (c.fetch id) = .ok claims ↔
    ∃ body, Completes (c.fetchRequest id) (source (c.fetchRequest id) s).1 200 body ∧
      Holds body (ClaimsResponse.SpelledBy ⟨claims⟩) := by
  rw [fetch, outcome_bind_done, Except.map_eq_ok_iff]
  constructor
  · rintro ⟨r, hr, rfl⟩
    obtain ⟨status, body, hdone, hstatus, hbody⟩ := outcome_exchange_eq_ok_iff.1 hr
    obtain rfl : status = 200 := by simpa using hstatus
    simp only [ClaimsResponse.ofDraft?_eq_some_iff] at hbody
    exact ⟨body, hdone, hbody⟩
  · rintro ⟨body, hdone, hbody⟩
    refine ⟨⟨claims⟩, outcome_exchange_eq_ok_iff.2 ⟨200, body, hdone, rfl, ?_⟩, rfl⟩
    simpa only [ClaimsResponse.ofDraft?_eq_some_iff] using hbody

lemma outcome_confirm {key asserted : String} :
    outcome source s (c.confirm key asserted id) = true ↔
      ∃ claims v, outcome source s (c.fetch id) = .ok claims ∧ claims.get? key = some v ∧
        v.display = asserted := by
  rw [confirm, outcome_bind]
  cases outcome source s (c.fetch id) with
  | error e => simp [matchesRegistered, outcome, Dialogue.play]
  | ok registered =>
    simp only [matchesRegistered, outcome, Dialogue.play]
    cases hv : registered.get? key <;> simp [hv]

lemma outcome_confirmCached (h : c.caching = false) (key asserted : String) (cache : Cache) :
    (outcome source s (c.confirmCached key asserted id cache)).1 =
      outcome source s (c.confirm key asserted id) := by
  rw [confirmCached, h, Bool.false_and, if_neg (by simp), outcome_bind_done]

end Answers

/-- **The boundary fails closed and accepts what it should.** Whatever is replied, a verdict is a
success exactly on a complete answer that tells of success and says so twice, and any other flags
are those of such an answer; claims are fetched exactly from a complete answer of status 200, and
without a cache a claim is confirmed exactly by the claims that are fetched. -/
theorem verify_fetch_confirm_iff {σ : Type} (c : Client) (id : String)
    (source : Request → σ → Reply × σ) (s : σ) :
    (∀ signature claims,
      let v := outcome source s (c.verify id signature claims)
      let reply := (source (c.bundleRequest id signature claims) s).1
      (v.success = true ↔ c.Answers id signature claims reply true true) ∧
      (∀ a b, c.Answers id signature claims reply a b → v.signature = a ∧ v.claims = b) ∧
      ((∀ a b, ¬ c.Answers id signature claims reply a b) →
        v.signature = false ∧ v.claims = false)) ∧
    (∀ claims, outcome source s (c.fetch id) = .ok claims ↔
      ∃ body, Completes (c.fetchRequest id) (source (c.fetchRequest id) s).1 200 body ∧
        Holds body (ClaimsResponse.SpelledBy ⟨claims⟩)) ∧
    (c.caching = false → ∀ key asserted cache,
      (outcome source s (c.confirmCached key asserted id cache)).1 = true ↔
        ∃ claims v, outcome source s (c.fetch id) = .ok claims ∧ claims.get? key = some v ∧
          v.display = asserted) := by
  refine ⟨fun signature claims => ⟨?_, ?_, ?_⟩, fun claims => outcome_fetch_eq_ok_iff,
    fun h key asserted cache => ?_⟩
  · exact success_outcome_verify_iff
  · exact fun a b h => flags_outcome_verify h
  · exact flags_outcome_verify_of_not
  · rw [outcome_confirmCached h, outcome_confirm]

namespace Sample

/-- The client of a registry at `http://registry.test/`. -/
def client : Client where
  base := ⟨"http".toList, some ⟨[], [], some (.domain "registry.test".toList), none⟩, [[]],
    none, none⟩
  apiKey := none
  caching := false

def claims : ClaimSet := .ofList [("location", .text "eu")]

def response : BundleResponse := ⟨⟨" TRUE"⟩, ⟨"True\n"⟩⟩

/-- A registry that verifies everything, and has the same claims of everyone. -/
def source (r : Request) (_ : Unit) : Reply × Unit :=
  (match r.method with
  | .post => .response 202 (some (Text.utf8 response.json.text))
  | .get => .response 200 (some (Text.utf8 (ClaimsResponse.mk claims).json.text)), ())

end Sample

theorem verify_fetch_confirm_sample :
    (outcome Sample.source () (Sample.client.verify "alice" "c2ln" Sample.claims)).success = true ∧
      outcome Sample.source () (Sample.client.fetch "alice") = .ok Sample.claims ∧
      Sample.client.caching = false ∧
      (outcome Sample.source ()
        (Sample.client.confirmCached "location" "eu" "alice" [])).1 = true := by
  obtain ⟨hverify, hfetch, hconfirm⟩ :=
    verify_fetch_confirm_iff Sample.client "alice" Sample.source ()
  have hclaims : outcome Sample.source () (Sample.client.fetch "alice") = .ok Sample.claims := by
    refine (hfetch _).2 ⟨_, ⟨by decide, rfl, rfl⟩, ?_⟩
    have hnumbers : Sample.claims.json.numbers = [] := by decide
    have hbody := ClaimsResponse.ofBody?_json (r := ⟨Sample.claims⟩) (by decide)
      fun x hx hmem => by simp [hnumbers] at hmem
    simpa only [ofBody?_eq_some_iff, ClaimsResponse.ofDraft?_eq_some_iff] using hbody
  refine ⟨(hverify _ _).1.2 ⟨202, _, Sample.response, ⟨by decide, rfl, rfl⟩, by decide, by decide,
    ?_, TypedFlag.trimmed_iff.1 (by decide), TypedFlag.trimmed_iff.1 (by decide)⟩, hclaims, rfl,
    (hconfirm rfl _ _ _).2 ⟨_, .text "eu", hclaims, rfl, rfl⟩⟩
  have hbody := BundleResponse.ofBody?_json Sample.response
  simpa only [ofBody?_eq_some_iff, BundleResponse.ofDraft?_eq_some_iff] using hbody

end Client

end Attestation.Registry
