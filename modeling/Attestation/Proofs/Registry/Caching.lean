import Attestation.Proofs.Registry.Address
import Attestation.Proofs.Registry.Boundary

/-!
The cache of a client over a run of calls, while the registry may change its mind at any time.

A call is answered from the cache exactly when the latest answer that a fetch confirmed for the
same participant and claim was for the same value, and otherwise by what the registry replies
now. The invariant behind it: the cache holds for each participant and claim the latest value
that a fetch confirmed, and nothing else.
-/

namespace Attestation.Registry

lemma Cache.lookup_insert (cache : Cache) (id key value id' key' : String) :
    (cache.insert id key value).lookup id' key' =
      if id = id' ∧ key = key' then some value else cache.lookup id' key' := by
  unfold lookup insert
  by_cases h : id = id' ∧ key = key'
  · obtain ⟨rfl, rfl⟩ := h
    simp
  · have hother : ((id', key') : String × String) ≠ (id, key) :=
      fun h' => h ⟨(Prod.mk.inj h').1.symm, (Prod.mk.inj h').2.symm⟩
    rw [if_neg h, List.find?_cons_of_neg (by simpa using h), List.find?_filter]
    congr 2
    funext e
    -- entries for the other pair are not among those that were dropped
    by_cases he : e.1 = (id', key')
    · simp [he, hother]
    · simp [he]

lemma ClaimsResponse.holds_json {r : ClaimsResponse} (hdepth : r.claims.json.depth ≤ 126)
    (h : r.claims.RealsReadBack) : Holds (Text.utf8 r.json.text) (SpelledBy r) := by
  simpa only [ofBody?_eq_some_iff, ofDraft?_eq_some_iff] using ofBody?_json hdepth h

/-- The reply tells of claims of which the one under `key` has the string form `asserted`. -/
def Reply.Confirms (reply : Reply) (key asserted : String) : Prop :=
  ∃ body claims v, reply = .response 200 (some body) ∧
    Holds body (ClaimsResponse.SpelledBy ⟨claims⟩) ∧ claims.get? key = some v ∧
    v.display = asserted

namespace Client

/-! ### What is sent -/

/-- The client can ask for the claims of a participant: the address of the request can be sent to,
and the key fits in a header. -/
def sends (c : Client) (id : String) : Bool :=
  canSend (c.fetchRequest id).url && (c.fetchRequest id).apiKey.all fitsHeader

section Confirm

variable {σ α : Type} {source : Request → σ → Reply × σ} {s : σ} {c : Client}
  {key asserted id : String}

/-- **Only the length of the address depends on the participant**; all else is settled with the
client. -/
theorem sends_iff : c.sends id = true ↔
    (c.base.scheme = "http".toList ∨ c.base.scheme = "https".toList) ∧
      c.base.host?.any fitsRequest = true ∧ c.apiKey.all fitsHeader = true ∧
      (Text.utf8Chars (c.participantUrl id).withoutCredentials.chars).length ≤ addressLimit := by
  have hscheme : (c.fetchRequest id).url.scheme = c.base.scheme := rfl
  have hhost : (c.fetchRequest id).url.host? = c.base.host? := rfl
  have hkey : (c.fetchRequest id).apiKey = c.apiKey := rfl
  have hurl : (c.fetchRequest id).url = c.participantUrl id := rfl
  rw [sends, canSend, hscheme, hhost, hkey, hurl]
  simp only [Bool.and_eq_true, Bool.or_eq_true, beq_iff_eq, decide_eq_true_eq]
  tauto

lemma asked_exchange {wanted : ℕ → Bool} {read : Json.Draft → Option α} {r : Request} :
    ((exchange wanted read r).play source s).1.asked =
      if canSend r.url && r.apiKey.all fitsHeader then [r] else [] := by
  by_cases h : canSend r.url = true ∧ r.apiKey.all fitsHeader = true
  · rw [exchange_of_canSend h.1 h.2, if_pos (by simp [h])]
    rfl
  · obtain ⟨e, he⟩ := exists_exchange_eq_error wanted read h
    rw [he, if_neg (by simpa using h)]
    rfl

lemma asked_fetch : ((c.fetch id).play source s).1.asked =
    if c.sends id then [c.fetchRequest id] else [] := by
  rw [fetch, Dialogue.asked_play_bind, asked_exchange]
  exact List.append_nil _

lemma asked_matchesRegistered (registered : Except Error ClaimSet) :
    ((matchesRegistered registered key asserted id : Conversation Bool).play source s).1.asked =
      [] := by
  cases registered <;> rfl

lemma asked_confirm : ((c.confirm key asserted id).play source s).1.asked =
    if c.sends id then [c.fetchRequest id] else [] := by
  rw [confirm, Dialogue.asked_play_bind, asked_fetch, asked_matchesRegistered, List.append_nil]

lemma outcome_confirm_iff : outcome source s (c.confirm key asserted id) = true ↔
    c.sends id = true ∧ (source (c.fetchRequest id) s).1.Confirms key asserted := by
  simp only [outcome_confirm, outcome_fetch_eq_ok_iff, Completes, Reply.Confirms, sends,
    Bool.and_eq_true]
  constructor
  · rintro ⟨claims, v, ⟨body, ⟨hurl, hkey, hreply⟩, hbody⟩, hget, hdisplay⟩
    exact ⟨⟨hurl, hkey⟩, body, claims, v, hreply, hbody, hget, hdisplay⟩
  · rintro ⟨⟨hurl, hkey⟩, body, claims, v, hreply, hbody, hget, hdisplay⟩
    exact ⟨claims, v, ⟨body, ⟨hurl, hkey, hreply⟩, hbody⟩, hget, hdisplay⟩

end Confirm

end Client

/-! ### Runs -/

/-- A claim to be confirmed, and what the registry replies at that time. -/
structure Call where
  key : String
  asserted : String
  participant : String
  replies : Request → Reply

/-- The registry at the time of a call. -/
def Call.source (x : Call) (r : Request) (_ : Unit) : Reply × Unit := (x.replies r, ())

/-- A call with its answer, the requests that it took, and the cache before and after it. -/
structure Event where
  call : Call
  answer : Bool
  asked : List Request
  before : Cache
  after : Cache

/-- A fetch confirmed what was asserted of a participant under a key. -/
def Event.fetched (e : Event) (id key : String) : Bool :=
  e.call.participant == id && e.call.key == key && e.answer && !e.asked.isEmpty

/-- The value asserted by the latest call for a participant and a key that a fetch confirmed. -/
def lastFetched? (events : List Event) (id key : String) : Option String :=
  (events.reverse.find? (·.fetched id key)).map (·.call.asserted)

lemma lastFetched?_concat (events : List Event) (e : Event) (id key : String) :
    lastFetched? (events ++ [e]) id key =
      if e.fetched id key then some e.call.asserted else lastFetched? events id key := by
  unfold lastFetched?
  rw [List.reverse_append, List.reverse_singleton, List.singleton_append, List.find?_cons]
  cases e.fetched id key <;> rfl

namespace Client

/-- One call on the client. -/
def serve (c : Client) (cache : Cache) (x : Call) : Event :=
  let played := ((c.confirmCached x.key x.asserted x.participant cache).play x.source ()).1
  ⟨x, played.value.1, played.asked, cache, played.value.2⟩

/-- Calls on the client one after the other. -/
def run (c : Client) : Cache → List Call → List Event
  | _, [] => []
  | cache, x :: rest => c.serve cache x :: c.run (c.serve cache x).after rest

section Run

variable {c : Client}

/-- **What a call does**: it is answered from the cache without a request, or by a fetch, and
only what a fetch confirms changes the cache. -/
lemma serve_cases (cached : c.caching = true) (cache : Cache) (x : Call) :
    (cache.lookup x.participant x.key = some x.asserted ∧
      c.serve cache x = ⟨x, true, [], cache, cache⟩) ∨
    ∃ b, cache.lookup x.participant x.key ≠ some x.asserted ∧
      (b = true ↔ c.sends x.participant = true ∧
        (x.replies (c.fetchRequest x.participant)).Confirms x.key x.asserted) ∧
      c.serve cache x =
        ⟨x, b, if c.sends x.participant then [c.fetchRequest x.participant] else [], cache,
          if b then cache.insert x.participant x.key x.asserted else cache⟩ := by
  by_cases hit : cache.lookup x.participant x.key = some x.asserted
  · refine .inl ⟨hit, ?_⟩
    rw [serve, confirmCached, if_pos (by simp [cached, hit])]
    rfl
  · refine .inr ⟨outcome x.source () (c.confirm x.key x.asserted x.participant), hit,
      outcome_confirm_iff, ?_⟩
    have hasked := @asked_confirm _ x.source () c x.key x.asserted x.participant
    rw [serve, confirmCached, if_neg (by simp [cached, hit]), Dialogue.play_bind, ← hasked]
    simp only [cached, Dialogue.play, List.append_nil, Bool.true_and]
    rfl

/-- A call changes the latest confirmed value of its own claim at most. -/
lemma lookup_after_serve (cached : c.caching = true) (cache : Cache) (x : Call)
    (id key : String) :
    (c.serve cache x).after.lookup id key =
      if (c.serve cache x).fetched id key then some x.asserted else cache.lookup id key := by
  rcases serve_cases cached cache x with ⟨-, h⟩ | ⟨b, -, hb, h⟩
  · simp [h, Event.fetched]
  · cases b with
    | false => simp [h, Event.fetched]
    | true =>
      have hsends : c.sends x.participant = true := (hb.1 rfl).1
      simp [h, Event.fetched, hsends, Cache.lookup_insert]

/-- **The cache of a run holds the latest values that a fetch confirmed**, also where the run
goes on from a past. -/
lemma lookup_before_of_run (cached : c.caching = true) {calls : List Call} {cache : Cache}
    {past earlier later : List Event} {e : Event}
    (hpast : ∀ id key, cache.lookup id key = lastFetched? past id key)
    (h : c.run cache calls = earlier ++ e :: later) :
    e = c.serve e.before e.call ∧
      ∀ id key, e.before.lookup id key = lastFetched? (past ++ earlier) id key := by
  induction calls generalizing cache past earlier with
  | nil => simp [run] at h
  | cons x rest ih =>
    rw [run] at h
    cases earlier with
    | nil =>
      obtain ⟨rfl, -⟩ := List.cons.inj h
      exact ⟨rfl, by rwa [List.append_nil]⟩
    | cons first earlier =>
      obtain ⟨rfl, hrest⟩ := List.cons.inj h
      have hafter : ∀ id key, (c.serve cache x).after.lookup id key =
          lastFetched? (past ++ [c.serve cache x]) id key := by
        intro id key
        rw [lookup_after_serve cached, lastFetched?_concat, hpast]
        rfl
      simpa using ih hafter hrest

/-- **The cache neither invents nor loses an answer.** In a run from an empty cache, a call is
answered true exactly if the latest fetch that confirmed its claim confirmed the same value, or
the client can ask for the participant and the registry confirms the claim now; a request is sent
exactly in every other case in which the client can, and an answer of false leaves the cache as it
was. -/
theorem answer_iff_of_run (cached : c.caching = true) {calls : List Call}
    {earlier later : List Event} {e : Event} (h : c.run [] calls = earlier ++ e :: later) :
    (e.answer = true ↔
      lastFetched? earlier e.call.participant e.call.key = some e.call.asserted ∨
        c.sends e.call.participant = true ∧
          (e.call.replies (c.fetchRequest e.call.participant)).Confirms
            e.call.key e.call.asserted) ∧
    e.asked =
      (if lastFetched? earlier e.call.participant e.call.key = some e.call.asserted ∨
          c.sends e.call.participant = false then []
        else [c.fetchRequest e.call.participant]) ∧
    (e.answer = false → e.after = e.before) := by
  have hnil : ∀ id key, Cache.lookup [] id key = lastFetched? [] id key := fun _ _ => rfl
  obtain ⟨he, hbefore⟩ := lookup_before_of_run cached hnil h
  rw [List.nil_append] at hbefore
  rw [← hbefore]
  rcases serve_cases cached e.before e.call with ⟨hit, hserve⟩ | ⟨b, hmiss, hb, hserve⟩
  · rw [hserve] at he
    rw [hit, congrArg Event.answer he, congrArg Event.asked he]
    simp
  · rw [hserve] at he
    rw [congrArg Event.answer he, congrArg Event.asked he, congrArg Event.after he]
    refine ⟨hb.trans (by simp [hmiss]), ?_, ?_⟩
    · cases c.sends e.call.participant <;> simp [hmiss]
    rintro rfl
    rfl

end Run

namespace Sample

/-- The client of a registry at `http://[::1]/api/participants` that keeps answers. -/
def caching : Client := { sample with caching := true }

/-- Asks whether the location of alice is `asserted`. -/
def call (asserted : String) (reply : Reply) : Call :=
  ⟨"location", asserted, "alice", fun _ => reply⟩

/-- The reply of a registry that has alice in the EU. -/
def inEurope : Reply := .response 200 (some (Text.utf8 (ClaimsResponse.mk claims).json.text))

/-- Settings with a key that fits in no header. -/
def unsendable : RegistrySettings where
  url := some "http://[::1]/api/participants"
  apiKey := some "a\nb"
  cacheTtl := 60

lemma confirms_inEurope : inEurope.Confirms "location" "eu" := by
  have hnumbers : claims.json.numbers = [] := by decide
  exact ⟨_, claims, .text "eu", rfl, ClaimsResponse.holds_json (by decide)
    fun x hx hmem => by simp [hnumbers] at hmem, rfl, rfl⟩

end Sample

/-- An answer outlives an outage of the registry, for the value that was confirmed alone. -/
theorem answer_iff_of_run_sample :
    Sample.caching.caching = true ∧
      ∃ first second third,
        Sample.caching.run [] [Sample.call "eu" Sample.inEurope, Sample.call "eu" .nothing,
          Sample.call "us" .nothing] = [first, second, third] ∧
        first.answer = true ∧ first.asked = [Sample.caching.fetchRequest "alice"] ∧
        second.answer = true ∧ second.asked = [] ∧
        third.answer = false ∧ third.asked = [Sample.caching.fetchRequest "alice"] ∧
        third.after = third.before := by
  let c := Sample.caching
  let first := c.serve [] (Sample.call "eu" Sample.inEurope)
  let second := c.serve first.after (Sample.call "eu" .nothing)
  let third := c.serve second.after (Sample.call "us" .nothing)
  have hrun : c.run [] [Sample.call "eu" Sample.inEurope, Sample.call "eu" .nothing,
    Sample.call "us" .nothing] = [first, second, third] := rfl
  obtain ⟨answer₁, asked₁, -⟩ := answer_iff_of_run rfl
    (show c.run [] _ = [] ++ first :: [second, third] from hrun)
  obtain ⟨answer₂, asked₂, -⟩ := answer_iff_of_run rfl
    (show c.run [] _ = [first] ++ second :: [third] from hrun)
  obtain ⟨answer₃, asked₃, after₃⟩ := answer_iff_of_run rfl
    (show c.run [] _ = [first, second] ++ third :: [] from hrun)
  have hkept : lastFetched? [first] "alice" "location" = some "eu" := by decide +kernel
  have hkept' : lastFetched? [first, second] "alice" "location" = some "eu" := by decide +kernel
  have hmiss : lastFetched? [first, second] "alice" "location" ≠ some "us" := by
    rw [hkept']
    decide
  have hsends : c.sends "alice" = true := by decide
  have h₃ : third.answer = false := by
    by_contra h
    rcases answer₃.1 (by simpa using h) with hit | ⟨-, _, _, _, hreply, -⟩
    · exact hmiss hit
    · cases hreply
  have hasks : ¬ c.sends "alice" = false := by simp [hsends]
  exact ⟨rfl, first, second, third, hrun, answer₁.2 (.inr ⟨hsends, Sample.confirms_inEurope⟩),
    asked₁.trans (if_neg fun h => h.elim (by simp [lastFetched?]) hasks), answer₂.2 (.inl hkept),
    asked₂.trans (if_pos (.inl hkept)), h₃, asked₃.trans (if_neg fun h => h.elim hmiss hasks),
    after₃ h₃⟩

/-- A key that fits in no header lets no request out, though nothing is kept and the registry
would confirm the claim. -/
theorem exists_confirms_and_not_asked :
    ∃ c e, ofSettings Sample.unsendable = .ok c ∧ c.caching = true ∧
      c.run [] [Sample.call "eu" Sample.inEurope] = [e] ∧
      lastFetched? [] "alice" "location" ≠ some "eu" ∧
      Sample.inEurope.Confirms "location" "eu" ∧ e.answer = false ∧ e.asked = [] := by
  have hmade : ofSettings Sample.unsendable =
      .ok { Sample.caching with apiKey := some "a\nb" } := by
    rw [ofSettings, Sample.unsendable]
    simp only [ofUrl_sample]
    rfl
  exact ⟨_, _, hmade, rfl, rfl, by decide, Sample.confirms_inEurope, rfl, rfl⟩

end Client

end Attestation.Registry
