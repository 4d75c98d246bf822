import Attestation.Proofs.Url.Child
import Attestation.Registry.Client

/-!
The request for a participant's claims goes to a resource of the participant's own, below the
registry's address, exactly when the id can name one: ids made of dots alone, or with characters
that addresses drop, reach other resources.
-/

namespace Attestation.Registry.Client

open Url (Slashless IsChild Nameable)

lemma slashless_base {address : String} {c : Client} (h : ofUrl address = .ok c) :
    Slashless c.base.path := by
  unfold ofUrl at h
  dsimp only at h
  split at h
  · cases h
  · split at h
    · rename_i base hparse
      cases h
      exact Url.slashless_parse hparse
    · cases h
    · cases h

/-- **An id addresses a resource of its own below the registry exactly when it can name one**,
and then no other such id addresses it. Whatever the id, only the path changes. -/
theorem participantUrl_isChild_iff {address : String} {c : Client} (made : ofUrl address = .ok c)
    (id : String) :
    ((c.participantUrl id).scheme = c.base.scheme ∧
      (c.participantUrl id).authority = c.base.authority ∧
      (c.participantUrl id).query = c.base.query) ∧
    (c.base.IsChild (c.participantUrl id) id ↔ c.base.Nameable id) ∧
    ∀ other, c.base.Nameable id → c.base.Nameable other →
      (c.participantUrl id).text = (c.participantUrl other).text → id = other :=
  ⟨⟨rfl, rfl, rfl⟩, Url.isChild_child_iff (slashless_base made),
    fun _ hid hother => Url.text_child_injective hid hother⟩

/-- The client of a registry at `http://[::1]/api/participants`. -/
def sample : Client where
  base := ⟨"http".toList, some ⟨[], [], some (.v6 1), none⟩,
    ["api".toList, "participants".toList], none, none⟩
  apiKey := none
  caching := false

lemma ofUrl_sample : ofUrl "http://[::1]/api/participants" = .ok sample := by
  have hparse : Url.parse (trimUrl "http://[::1]/api/participants") = .ok sample.base := by
    decide +kernel
  rw [ofUrl, hparse, if_neg (by decide)]
  rfl

theorem participantUrl_isChild_sample :
    ofUrl "http://[::1]/api/participants" = .ok sample ∧
      sample.base.Nameable "a/../b?c#%2e é" ∧
      sample.base.IsChild (sample.participantUrl "a/../b?c#%2e é") "a/../b?c#%2e é" ∧
      (sample.participantUrl "a/../b?c#%2e é").text ≠ (sample.participantUrl "b").text := by
  have nameable {s : String} (hwhole : s.toList.all (!Url.isDropped ·) = true) (hdot : s ≠ ".")
      (hdots : s ≠ "..") : sample.base.Nameable s :=
    ⟨by simpa using hwhole, hdot, hdots, by decide, fun h => absurd h (by decide)⟩
  have hid := nameable (s := "a/../b?c#%2e é") (by decide) (by decide) (by decide)
  have hother := nameable (s := "b") (by decide) (by decide) (by decide)
  obtain ⟨-, hiff, hinjective⟩ := participantUrl_isChild_iff ofUrl_sample "a/../b?c#%2e é"
  exact ⟨ofUrl_sample, hid, hiff.2 hid, fun h => absurd (hinjective "b" hid hother h) (by decide)⟩

/-- Two dots address the list of all participants, two dots around a tab what is above it, and a
tab within an id is lost. -/
theorem exists_participantUrl_not_isChild :
    ∃ c, ofUrl "http://[::1]/api/participants" = .ok c ∧
      ¬ c.base.IsChild (c.participantUrl "..") ".." ∧ c.participantUrl ".." = c.base ∧
      (c.participantUrl ".\t.").target = "/api/".toList ∧
      c.participantUrl "a\tb" = c.participantUrl "ab" := by
  refine ⟨sample, ofUrl_sample, ?_, by decide, by decide, by decide⟩
  rintro ⟨segment, htext, -⟩
  have hlength := congrArg List.length htext
  rw [List.length_append, List.length_cons] at hlength
  have hbase : (Url.pathChars (sample.participantUrl "..").path).length = 17 := by decide
  have hopen : sample.base.openPath.length = 17 := by decide
  omega

end Attestation.Registry.Client
