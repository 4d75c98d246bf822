import Attestation.Proofs.Computation
import Attestation.Proofs.Loading
import Attestation.Proofs.Text.Runs
import Attestation.Registry.Client
import Mathlib.Data.List.DropRight

/-!
When the address of the registry is missing.

Validation asks for it before any file is opened, and a client is made from it later. Validation
does not count the white space around an address, a client does not count the slashes at its end
either, so the two differ on addresses in which there is nothing else.
-/

namespace Attestation

open Registry (Client)
open Text (isBlank isSpace trimChars)

/-! ### Addresses with nothing in them -/

/-- One slash or more, with white space around them or not. -/
def Slashes (address : String) : Prop :=
  ∃ before n after, address.toList = before ++ List.replicate (n + 1) '/' ++ after ∧
    (∀ c ∈ before, isSpace c = true) ∧ ∀ c ∈ after, isSpace c = true

lemma trimChars_eq_nil_iff {address : String} :
    trimChars address.toList = [] ↔ isBlank address = true := by
  constructor
  · intro h
    obtain ⟨before, after, heq, hbefore, hafter⟩ := Text.exists_eq_append_trimChars address.toList
    rw [h, List.append_nil] at heq
    rw [isBlank, heq, List.all_append, List.all_eq_true.2 hbefore, List.all_eq_true.2 hafter,
      Bool.and_self]
  · intro h
    exact String.ofList_injective (Text.trim_eq_empty_of_isBlank h)

lemma slashes_iff {address : String} :
    Slashes address ↔ isBlank address = false ∧ ∀ c ∈ trimChars address.toList, c = '/' := by
  constructor
  · rintro ⟨before, n, after, heq, hbefore, hafter⟩
    have htrim : trimChars address.toList = List.replicate (n + 1) '/' := by
      rw [heq]
      refine Text.trimChars_append hbefore hafter fun c hc => ?_
      rw [List.eq_of_mem_replicate hc]
      decide
    refine ⟨?_, fun c hc => List.eq_of_mem_replicate (htrim ▸ hc)⟩
    rw [Bool.eq_false_iff, ne_eq, ← trimChars_eq_nil_iff, htrim]
    exact List.cons_ne_nil _ _
  · rintro ⟨hblank, hslash⟩
    obtain ⟨before, after, heq, hbefore, hafter⟩ := Text.exists_eq_append_trimChars address.toList
    have hlength : (trimChars address.toList).length ≠ 0 := by
      rw [ne_eq, List.length_eq_zero_iff, trimChars_eq_nil_iff, hblank]
      exact Bool.false_ne_true
    obtain ⟨n, hn⟩ := Nat.exists_eq_succ_of_ne_zero hlength
    refine ⟨before, n, after, ?_, hbefore, hafter⟩
    rw [← Nat.succ_eq_add_one, ← hn, ← List.eq_replicate_of_mem hslash]
    exact heq

lemma trimUrl_eq_nil_iff {address : String} :
    Client.trimUrl address = [] ↔ isBlank address = true ∨ Slashes address := by
  have hslash : Client.trimUrl address = [] ↔ ∀ c ∈ trimChars address.toList, c = '/' := by
    have htrim : Client.trimUrl address = (trimChars address.toList).rdropWhile (· == '/') := rfl
    rw [htrim, List.rdropWhile_eq_nil_iff]
    simp only [beq_iff_eq]
  rw [hslash, slashes_iff]
  cases hblank : isBlank address with
  | false => simp
  | true => simp [trimChars_eq_nil_iff.2 hblank]

/-! ### What validation and the client miss -/

/-- Validation reports that the value of this name is missing. -/
def Settings.Reports (s : Settings) (name : String) : Prop :=
  ∃ fields, s.validate = .error (.missingConfiguration fields) ∧ name ∈ fields

namespace RegistrySettings

/-- A client is refused because a value is missing. -/
def Incomplete (r : RegistrySettings) : Prop :=
  ∃ fields, Client.ofSettings r = .error (.missingConfiguration fields)

/-- There is an address, and it has nothing in it but slashes and white space around them. -/
def OnlySlashes (r : RegistrySettings) : Prop := ∃ address, r.url = some address ∧ Slashes address

end RegistrySettings

namespace Registry.Client

lemma ofUrl_eq_error_iff {address : String} {fields : List String} :
    ofUrl address = .error (.missingConfiguration fields) ↔
      trimUrl address = [] ∧ fields = ["registry.url"] := by
  unfold ofUrl
  by_cases h : trimUrl address = []
  · simp [h, eq_comm]
  · have hempty : ¬ (trimUrl address).isEmpty = true := by simpa using h
    simp only [hempty, h, false_and, iff_false]
    cases Url.parse (trimUrl address) with
    | ok base => exact (nomatch ·)
    | error fault => cases fault <;> exact (nomatch ·)

/-- The only value that a client may be without is the address. -/
lemma ofSettings_eq_error_iff {r : RegistrySettings} {fields : List String} :
    ofSettings r = .error (.missingConfiguration fields) ↔
      (∀ address, r.url = some address → trimUrl address = []) ∧ fields = ["registry.url"] := by
  unfold ofSettings
  cases r.url with
  | none =>
    constructor
    · intro h
      cases h
      exact ⟨nofun, rfl⟩
    · rintro ⟨-, rfl⟩
      rfl
  | some address =>
    simp only [Except.bind_eq_error_iff, ofUrl_eq_error_iff, Option.some.injEq, forall_eq']
    exact or_iff_left fun ⟨c, _, h⟩ => nomatch h

end Registry.Client

lemma RegistrySettings.incomplete_iff {r : RegistrySettings} :
    r.Incomplete ↔ (∀ address, r.url = some address → isBlank address = true) ∨ r.OnlySlashes := by
  have hnil : r.Incomplete ↔ ∀ address, r.url = some address → Client.trimUrl address = [] := by
    simp [Incomplete, Client.ofSettings_eq_error_iff]
  simp only [hnil, trimUrl_eq_nil_iff, OnlySlashes]
  cases r.url <;> simp

namespace Settings

lemma reports_iff_lacks {s : Settings} {name : String} : s.Reports name ↔ s.Lacks name := by
  constructor
  · rintro ⟨fields, hvalidate, hmem⟩
    by_contra hlacks
    unfold validate at hvalidate
    split at hvalidate
    · cases hvalidate
      exact hlacks (mem_missing_iff.1 hmem)
    · split at hvalidate <;> cases hvalidate
  · exact fun h => ⟨s.missing, validate_of_lacks h, mem_missing_iff.2 h⟩

lemma reports_url_iff {s : Settings} : s.Reports "registry.url" ↔
    ∀ address, s.registry.url = some address → isBlank address = true := by
  rw [reports_iff_lacks]
  constructor
  · intro h
    generalize hname : "registry.url" = name at h
    cases h with
    | url h => exact h
    | _ => exact absurd hname (by decide)
  · exact .url

/-- No address is blank and made of slashes. -/
lemma not_onlySlashes_of_reports {s : Settings} (h : s.Reports "registry.url") :
    ¬ s.registry.OnlySlashes := by
  rintro ⟨address, haddress, hslashes⟩
  have hblank := reports_url_iff.1 h address haddress
  rw [(slashes_iff.1 hslashes).1] at hblank
  cases hblank

/-- **Validation and the client agree that the address is missing, unless it is nothing but
slashes.** The client misses every address that validation reports and those of slashes, so
settings that pass validation are incomplete for the client exactly when their address is one of
these. -/
theorem reports_url_iff_incomplete (s : Settings) :
    (s.registry.Incomplete ↔ s.Reports "registry.url" ∨ s.registry.OnlySlashes) ∧
      ((s.Reports "registry.url" ↔ s.registry.Incomplete) ↔ ¬ s.registry.OnlySlashes) ∧
      (s.validate = .ok () → (s.registry.Incomplete ↔ s.registry.OnlySlashes)) := by
  have hincomplete : s.registry.Incomplete ↔
      s.Reports "registry.url" ∨ s.registry.OnlySlashes := by
    rw [RegistrySettings.incomplete_iff, reports_url_iff]
  refine ⟨hincomplete, ?_, fun hvalid => ?_⟩
  · rw [hincomplete]
    constructor
    · exact fun hagree hslashes =>
        not_onlySlashes_of_reports (hagree.2 (.inr hslashes)) hslashes
    · exact fun hslashes => (or_iff_left hslashes).symm
  · have hcomplete : ¬ s.Reports "registry.url" :=
      fun h => (validate_eq_ok_iff.1 hvalid).1 _ (reports_iff_lacks.1 h)
    rw [hincomplete, or_iff_right hcomplete]

/-- Settings with three paths and this address. -/
def withAddress (address : String) : Settings :=
  ⟨some "claims.json", some "private.pem", some "public.pem", { url := some address }⟩

theorem reports_url_iff_incomplete_sample :
    (withAddress "http://registry/").validate = .ok () ∧
      ¬ (withAddress "http://registry/").registry.Incomplete ∧
      (withAddress " ").Reports "registry.url" ∧ (withAddress " ").registry.Incomplete := by
  have hvalid : (withAddress "http://registry/").validate = .ok () := rfl
  have hslashes : ¬ (withAddress "http://registry/").registry.OnlySlashes := by
    rintro ⟨address, haddress, hslashes⟩
    cases haddress
    exact absurd ((slashes_iff.1 hslashes).2 'h' (by decide)) (by decide)
  have hreports : (withAddress " ").Reports "registry.url" := ⟨["registry.url"], rfl, by simp⟩
  obtain ⟨-, -, hincomplete⟩ := reports_url_iff_incomplete (withAddress "http://registry/")
  obtain ⟨hmissing, -, -⟩ := reports_url_iff_incomplete (withAddress " ")
  exact ⟨hvalid, fun h => hslashes ((hincomplete hvalid).1 h), hreports, hmissing.2 (.inl hreports)⟩

/-- An address of one slash passes validation, and the client takes it for missing. -/
theorem exists_validate_and_incomplete :
    (withAddress "/").validate = .ok () ∧
      Client.ofSettings (withAddress "/").registry =
        .error (.missingConfiguration ["registry.url"]) ∧
      ¬ ((withAddress "/").Reports "registry.url" ↔ (withAddress "/").registry.Incomplete) := by
  have hvalid : (withAddress "/").validate = .ok () := rfl
  have hmissing : Client.ofSettings (withAddress "/").registry =
      .error (.missingConfiguration ["registry.url"]) := rfl
  refine ⟨hvalid, hmissing, fun hagree => ?_⟩
  obtain ⟨fields, hfields, -⟩ := hagree.2 ⟨_, hmissing⟩
  rw [hvalid] at hfields
  cases hfields

end Settings

end Attestation
