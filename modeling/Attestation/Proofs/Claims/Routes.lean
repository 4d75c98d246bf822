import Attestation.Policy.Agent
import Attestation.Proofs.Claims.Json
import Attestation.Proofs.Json.Reading
import Attestation.Proofs.Loading

/-!
The two ways in which a claim set is read from a text.

A file is read as claims at once. The text that an agent brings is first made a value, in which
a later member has taken the place of an earlier one under the same key. So the two agree
unless what is replaced holds a null or a list, which only the first way sees.
-/

namespace Attestation

namespace Json.Draft

mutual

/-- There are no nulls and no lists, not even in members that later ones replace. -/
def Assertable : Draft → Prop
  | .null | .array _ => False
  | .object members => AssertableMembers members
  | _ => True

def AssertableMembers : List (Option String × Draft) → Prop
  | [] => True
  | (_, d) :: rest => d.Assertable ∧ AssertableMembers rest

end

/-- Induction over the drafts that a draft is made of. -/
theorem induction {motive : Draft → Prop} (null : motive .null) (bool : ∀ b, motive (.bool b))
    (number : ∀ n, motive (.number n)) (string : ∀ s, motive (.string s))
    (array : ∀ items, (∀ d ∈ items, motive d) → motive (.array items))
    (object : ∀ members : List (Option String × Draft), (∀ m ∈ members, motive m.2) →
      motive (.object members)) (tooDeep : motive .tooDeep) : ∀ d, motive d
  | .null => null
  | .bool b => bool b
  | .number n => number n
  | .string s => string s
  | .array items => array items fun d _ =>
    induction null bool number string array object tooDeep d
  | .object members => object members fun ⟨_, d⟩ _ =>
    induction null bool number string array object tooDeep d
  | .tooDeep => tooDeep
termination_by d => sizeOf d
decreasing_by
  · have := List.sizeOf_lt_of_mem ‹d ∈ items›
    rw [Draft.array.sizeOf_spec]
    omega
  · have := List.sizeOf_lt_of_mem ‹_ ∈ members›
    rw [Prod.mk.sizeOf_spec] at this
    rw [Draft.object.sizeOf_spec]
    omega

end Json.Draft

namespace ClaimValue

open Json (Draft)

lemma jsonMembers_eq (ms : List (String × ClaimValue)) :
    jsonMembers ms = Keyed.mapValues json ms := by
  induction ms with
  | nil => rfl
  | cons m ms ih =>
    obtain ⟨k, v⟩ := m
    rw [jsonMembers, ih]
    rfl

lemma jsonMembers_ofList (ms : List (String × ClaimValue)) :
    jsonMembers (Keyed.ofList ms) = Keyed.ofList (jsonMembers ms) := by
  rw [jsonMembers_eq, jsonMembers_eq, Keyed.ofList_mapValues]

/-- What a claim is read from has the value of the claim, and is assertable. -/
def Faithful (d : Draft) : Prop :=
  ∀ v, ofDraft? d = some v → d.value? = some v.json ∧ d.Assertable

lemma members_faithful {ds : List (Option String × Draft)} (h : ∀ m ∈ ds, Faithful m.2)
    {ms : List (String × ClaimValue)} (hms : membersOfDraft? ds = some ms) :
    Draft.memberValues? ds = some (jsonMembers ms) ∧ Draft.AssertableMembers ds := by
  induction ds generalizing ms with
  | nil =>
    cases hms
    exact ⟨rfl, trivial⟩
  | cons m ds ih =>
    obtain ⟨k, d⟩ := m
    simp only [membersOfDraft?, Option.bind_eq_bind, Option.bind_eq_some_iff] at hms
    obtain ⟨k, rfl, v, hv, ms', hms', heq⟩ := hms
    cases heq
    obtain ⟨hvalue, hassert⟩ := h _ List.mem_cons_self v hv
    obtain ⟨hvalues, hasserts⟩ := ih (fun m hm => h m (List.mem_cons_of_mem _ hm)) hms'
    refine ⟨?_, hassert, hasserts⟩
    simp only at hvalue
    simp [Draft.memberValues?, hvalue, hvalues, jsonMembers]

lemma faithful (d : Draft) : Faithful d := by
  induction d using Draft.induction with
  | object ds ih =>
    intro v hv
    obtain ⟨ms, hms, rfl⟩ := Option.map_eq_some_iff.1 hv
    obtain ⟨hvalues, hasserts⟩ := members_faithful ih hms
    refine ⟨?_, hasserts⟩
    rw [Draft.value?, hvalues, json, jsonMembers_ofList]
    rfl
  | bool b =>
    intro v hv
    cases hv
    exact ⟨rfl, trivial⟩
  | number n =>
    intro v hv
    obtain ⟨n, rfl, rfl⟩ := Option.map_eq_some_iff.1 hv
    exact ⟨rfl, trivial⟩
  | string s =>
    intro v hv
    obtain ⟨s, rfl, rfl⟩ := Option.map_eq_some_iff.1 hv
    exact ⟨rfl, trivial⟩
  | null | array | tooDeep =>
    intro v hv
    cases hv

/-- From an assertable draft with a value a claim is read. -/
def Readable (d : Draft) : Prop := d.Assertable → ∀ v, d.value? = some v → ∃ c, ofDraft? d = some c

lemma members_readable {ds : List (Option String × Draft)} (h : ∀ m ∈ ds, Readable m.2)
    (hds : Draft.AssertableMembers ds) {vs : List (String × Json)}
    (hvs : Draft.memberValues? ds = some vs) : ∃ ms, membersOfDraft? ds = some ms := by
  induction ds generalizing vs with
  | nil => exact ⟨[], rfl⟩
  | cons m ds ih =>
    obtain ⟨k, d⟩ := m
    simp only [Draft.memberValues?, Option.bind_eq_bind, Option.bind_eq_some_iff] at hvs
    obtain ⟨k, rfl, v, hv, vs', hvs', -⟩ := hvs
    obtain ⟨c, hc⟩ := h _ List.mem_cons_self hds.1 v hv
    obtain ⟨ms, hms⟩ := ih (fun m hm => h m (List.mem_cons_of_mem _ hm)) hds.2 hvs'
    exact ⟨(k, c) :: ms, by simp only at hc; simp [membersOfDraft?, hc, hms]⟩

lemma readable (d : Draft) : Readable d := by
  induction d using Draft.induction with
  | object ds ih =>
    intro hassert v hv
    obtain ⟨vs, hvs, -⟩ := Option.map_eq_some_iff.1 hv
    obtain ⟨ms, hms⟩ := members_readable ih hassert hvs
    exact ⟨_, by rw [ofDraft?, hms]; rfl⟩
  | bool b => exact fun _ _ _ => ⟨_, rfl⟩
  | number n =>
    intro _ v hv
    obtain ⟨n, rfl, -⟩ := Option.map_eq_some_iff.1 hv
    exact ⟨_, rfl⟩
  | string s =>
    intro _ v hv
    obtain ⟨s, rfl, -⟩ := Option.map_eq_some_iff.1 hv
    exact ⟨_, rfl⟩
  | tooDeep =>
    intro _ v hv
    cases hv
  | null | array => exact False.elim

end ClaimValue

namespace ClaimSet

open Json (Draft)

lemma ofDraft?_eq_some_iff {d : Draft} {s : ClaimSet} :
    ofDraft? d = some s ↔ ClaimValue.ofDraft? d = some (.nested s.entries) := by
  cases d with
  | object members =>
    rw [ofDraft?, ClaimValue.ofDraft?]
    split
    · rename_i ms hms
      obtain ⟨entries, hentries⟩ := s
      simp [hms]
    · rename_i hms
      simp [hms]
  | _ => simp [ofDraft?, ClaimValue.ofDraft?]

/-- **A claim set is read from a draft exactly when it is read from its value and nothing that
is replaced is a null or a list.** -/
theorem ofDraft?_iff {d : Draft} {s : ClaimSet} :
    ofDraft? d = some s ↔ d.value?.bind ofJson? = some s ∧ d.Assertable := by
  have forth {s : ClaimSet} (h : ofDraft? d = some s) :
      d.value?.bind ofJson? = some s ∧ d.Assertable := by
    obtain ⟨hvalue, hassert⟩ := ClaimValue.faithful d _ (ofDraft?_eq_some_iff.1 h)
    exact ⟨by rw [hvalue]; exact s.ofJson?_json, hassert⟩
  refine ⟨forth, ?_⟩
  rintro ⟨h, hassert⟩
  obtain ⟨v, hv, hs⟩ := Option.bind_eq_some_iff.1 h
  obtain ⟨c, hc⟩ := ClaimValue.readable d hassert v hv
  obtain rfl : v = c.json := Option.some.inj (hv.symm.trans (ClaimValue.faithful d c hc).1)
  cases c with
  | nested ms =>
    have hread := ofDraft?_eq_some_iff (s := ⟨ms, ClaimValue.ordered_of_ofDraft? d hc⟩).2 hc
    rwa [← h, (forth hread).1]
  | _ => simp [ofJson?, ClaimValue.json, Json.draft, ofDraft?] at hs

end ClaimSet

/-- The claims that a file holds, when the files are as given. -/
def Loading.claimsIn (files : String → Except FileFault (List UInt8)) (path : String) :
    Except Error ClaimSet :=
  ((Loading.claims path).run.play (fun q s => (files q, s)) ()).1.value

namespace Loading

variable {files : String → Except FileFault (List UInt8)} {path t : String}

lemma claimsIn_eq (h : files path = .ok (Text.utf8 t)) :
    claimsIn files path = (ClaimSet.parse? t).elim (.error (.invalidClaims path)) .ok := by
  have hclaims : claimsIn files path = loaded files (claims path) := rfl
  rw [hclaims, loaded_claims, textIn_eq_ok_iff.2 h]
  rfl

end Loading

lemma Agent.claims_eq_ok_iff {a : Agent} {t : String}
    (ha : a.attribute? "claims" = some (.string t)) {s : ClaimSet} :
    a.claims = .ok s ↔ (Json.parse t).bind ClaimSet.ofJson? = some s := by
  rw [Agent.claims, ha]
  dsimp only
  cases Json.parse t with
  | none => simp
  | some v =>
    rw [Option.bind_some]
    dsimp only
    rw [Agent.claimsOfJson]
    cases ClaimSet.ofJson? v <;> simp

namespace Loading

/-- **A file gives the claims that an agent with the same text brings, unless there are nulls or
lists in the text**, be it in members that are replaced. -/
theorem claimsIn_eq_ok_iff {files : String → Except FileFault (List UInt8)} {path t : String}
    {a : Agent} (hfile : files path = .ok (Text.utf8 t))
    (hagent : a.attribute? "claims" = some (.string t)) (s : ClaimSet) :
    claimsIn files path = .ok s ↔
      a.claims = .ok s ∧ ∀ d, Json.Draft.parse t.toList = some d → d.Assertable := by
  rw [claimsIn_eq hfile, Agent.claims_eq_ok_iff hagent, ClaimSet.parse?, Json.parse]
  cases Json.Draft.parse t.toList with
  | none => simp
  | some d =>
    have hread := ClaimSet.ofDraft?_iff (d := d) (s := s)
    simp only [Option.bind_some, Option.some.injEq, forall_eq', ← hread]
    cases ClaimSet.ofDraft? d <;> simp

namespace Sample

/-- Claims in which a key is repeated. -/
def repeated : Json :=
  .object [("a", .nat 1), ("a", .object [("b", .string "x")]), ("c", .bool true)]

/-- Claims in which a null is replaced. -/
def replaced : Json := .object [("a", .null), ("a", .nat 1)]

example : replaced.text = "\x7b\"a\":null,\"a\":1\x7d" := by decide

/-- An agent with the text of a value. -/
def agent (v : Json) : Agent := Agent.empty.withAttribute "claims" (.string v.text)

lemma attribute?_agent (v : Json) : (agent v).attribute? "claims" = some (.string v.text) := by
  simp [agent, Agent.attribute?, Agent.withAttribute, Agent.empty, Keyed.find?]

lemma draftParse_text {v : Json} (hdepth : v.depth < Json.depthLimit)
    (h : ∀ x hx, .real x hx ∉ v.numbers) : Json.Draft.parse v.text.toList = some v.draft := by
  rw [Json.text, String.toList_ofList]
  exact Json.draftParse_chars hdepth fun x hx hmem => absurd hmem (h x hx)

lemma draftParse_repeated : Json.Draft.parse repeated.text.toList = some repeated.draft :=
  draftParse_text (by decide) (by simp [repeated, Json.numbers, Json.numbersOfMembers, Json.nat,
    Json.Number.ofNat])

lemma draftParse_replaced : Json.Draft.parse replaced.text.toList = some replaced.draft :=
  draftParse_text (by decide) (by simp [replaced, Json.numbers, Json.numbersOfMembers, Json.nat,
    Json.Number.ofNat])

/-- What is left of the repeated claims. -/
def kept : ClaimSet :=
  .ofList [("a", (ClaimSet.ofList [("b", .text "x")]).claim), ("c", .flag true)]

end Sample

theorem claimsIn_eq_ok_iff_sample :
    (Sample.agent Sample.repeated).claims = .ok Sample.kept ∧
      claimsIn (fun _ => .ok (Text.utf8 Sample.repeated.text)) "claims.json" = .ok Sample.kept := by
  have hagent : (Sample.agent Sample.repeated).claims = .ok Sample.kept := by
    rw [Agent.claims_eq_ok_iff (Sample.attribute?_agent _), Json.parse, Sample.draftParse_repeated]
    rfl
  refine ⟨hagent, ?_⟩
  rw [claimsIn_eq_ok_iff (t := Sample.repeated.text) rfl (Sample.attribute?_agent _)]
  refine ⟨hagent, fun d hd => ?_⟩
  rw [Sample.draftParse_repeated] at hd
  cases hd
  simp [Sample.repeated, Json.draft, Json.draftMembers, Json.nat, Json.Draft.Assertable,
    Json.Draft.AssertableMembers]

theorem exists_claims_and_claimsIn_error :
    ∃ (files : String → Except FileFault (List UInt8)) (path t : String) (a : Agent) (s : ClaimSet),
      files path = .ok (Text.utf8 t) ∧
      a.attribute? "claims" = some (.string t) ∧ a.claims = .ok s ∧
      claimsIn files path = .error (.invalidClaims path) := by
  refine ⟨fun _ => .ok (Text.utf8 Sample.replaced.text), "claims.json", Sample.replaced.text,
    Sample.agent Sample.replaced, .ofList [("a", .number (.ofNat 1))], rfl,
    Sample.attribute?_agent _, ?_, ?_⟩
  · rw [Agent.claims_eq_ok_iff (Sample.attribute?_agent _), Json.parse, Sample.draftParse_replaced]
    rfl
  · rw [claimsIn_eq rfl, ClaimSet.parse?, Sample.draftParse_replaced]
    rfl

end Loading

end Attestation
