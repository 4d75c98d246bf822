import Attestation.Encoding.KeyDocument
import Mathlib.Tactic.Common
import Mathlib.Data.Nat.Notation

/-!
A key document is read back to what it was written from, a private one with its public half, and
no document is of both kinds.
-/

namespace Attestation

namespace Der

variable {tag : UInt8} {content : List UInt8}

lemma takeLength_cons {n : ℕ} (hn : n < 128) (rest : List UInt8) :
    takeLength (UInt8.ofNat n :: rest) = some (n, rest) := by
  have hlt : UInt8.ofNat n < 0x80 := by
    rw [UInt8.lt_iff_toNat_lt, UInt8.toNat_ofNat']
    simp
    omega
  rw [takeLength, if_pos hlt, UInt8.toNat_ofNat']
  simp
  omega

/-- An element is told from what follows it. -/
lemma takeElement_element (htag : isTag tag = true) (hlen : content.length < 128)
    (rest : List UInt8) : takeElement (element tag content ++ rest) = some (⟨tag, content⟩, rest) := by
  simp only [element, List.cons_append, takeElement, takeLength_cons hlen]
  simp [htag]

lemma takeTagged_element (htag : isTag tag = true) (hlen : content.length < 128)
    (rest : List UInt8) : takeTagged tag (element tag content ++ rest) = some (content, rest) := by
  rw [takeTagged, takeElement_element htag hlen]
  simp

lemma onlyElement_element (htag : isTag tag = true) (hlen : content.length < 128) :
    onlyElement tag (element tag content) = some content := by
  have htake := takeTagged_element htag hlen []
  rw [List.append_nil] at htake
  rw [onlyElement, htake]

/-- An element has one tag. -/
lemma tag_eq_of_takeTagged {other : UInt8} {bytes : List UInt8} {r s : List UInt8 × List UInt8}
    (h : takeTagged tag bytes = some r) (h' : takeTagged other bytes = some s) : tag = other := by
  unfold takeTagged at h h'
  cases he : takeElement bytes with
  | none =>
    rw [he] at h
    cases h
  | some found =>
    rw [he] at h h'
    dsimp only at h h'
    split_ifs at h h' with htag hother
    exact htag.symm.trans hother

end Der

namespace KeyDocument

open Der

/-- **Decoding undoes encoding.** -/
theorem decodePublic_encodePublic {key : List UInt8} (h : key.length = 32) :
    decodePublic (encodePublic key) = some key := by
  have hbits : (0 :: key : List UInt8).length < 128 := by simp [h]
  have hbody : (element 0x30 algorithm ++ element 0x03 (0 :: key)).length < 128 := by
    simp [element, algorithm, h]
  unfold decodePublic encodePublic
  rw [onlyElement_element (by decide) hbody]
  simp only [Option.bind_eq_bind, Option.bind_some]
  rw [takeTagged_element (by decide) (by decide)]
  simp only [Option.bind_some, onlyElement_element (by decide : isTag 0x03 = true) hbits]
  simp [wholeBits, h]

lemma takePublic_element {key : List UInt8} (h : key.length = 32) :
    takePublic (element 0x81 (0 :: key)) = some (some key, []) := by
  have htake : takeTagged 0x81 (element 0x81 (0 :: key) ++ []) = some (0 :: key, []) :=
    takeTagged_element (by decide) (by simp [h]) []
  rw [List.append_nil] at htake
  rw [element] at htake ⊢
  rw [takePublic, if_neg (by decide), if_pos rfl, htake]
  rfl

/-- **Decoding a private document gives back both halves.** -/
theorem decodePrivate_encodePrivate {seed key : List UInt8} (hseed : seed.length = 32)
    (hkey : key.length = 32) : decodePrivate (encodePrivate seed key) = some (seed, some key) := by
  have hsecret : (element 0x04 seed).length < 128 := by simp [element, hseed]
  have hbody : (element 0x02 [1] ++ element 0x30 algorithm ++ element 0x04 (element 0x04 seed) ++
      element 0x81 (0 :: key)).length < 128 := by
    simp [element, algorithm, hseed, hkey]
  have hinner : onlyElement 0x04 (element 0x04 seed) = some seed :=
    onlyElement_element (by decide) (by omega)
  have hext : areExtensions [] = true := by
    rw [areExtensions]
    rfl
  unfold decodePrivate encodePrivate
  rw [onlyElement_element (by decide) hbody]
  simp only [Option.bind_eq_bind, Option.bind_some, List.append_assoc]
  rw [takeTagged_element (by decide) (by decide)]
  simp only [Option.bind_some]
  rw [takeTagged_element (by decide) (by decide)]
  simp only [Option.bind_some]
  rw [takeTagged_element (by decide) hsecret]
  simp only [Option.bind_some, takePublic_element hkey, hext, hinner]
  simp [hseed, hkey]

/-! ### Two kinds -/

/-- What a public document holds begins with its algorithm. -/
lemma takeTagged_of_decodePublic {bytes key : List UInt8} (h : decodePublic bytes = some key) :
    ∃ body r, onlyElement 0x30 bytes = some body ∧ takeTagged 0x30 body = some r := by
  unfold decodePublic at h
  simp only [Option.bind_eq_bind, Option.bind_eq_some_iff] at h
  obtain ⟨body, hbody, r, hr, -⟩ := h
  exact ⟨body, r, hbody, hr⟩

/-- What a private document holds begins with its version. -/
lemma takeTagged_of_decodePrivate {bytes seed : List UInt8} {key : Option (List UInt8)}
    (h : decodePrivate bytes = some (seed, key)) :
    ∃ body r, onlyElement 0x30 bytes = some body ∧ takeTagged 0x02 body = some r := by
  unfold decodePrivate at h
  simp only [Option.bind_eq_bind, Option.bind_eq_some_iff] at h
  obtain ⟨body, hbody, r, hr, -⟩ := h
  exact ⟨body, r, hbody, hr⟩

/-- **No document is both a private and a public one.** -/
theorem not_decodePublic_and_decodePrivate {bytes key seed : List UInt8}
    {half : Option (List UInt8)} :
    ¬ (decodePublic bytes = some key ∧ decodePrivate bytes = some (seed, half)) := by
  rintro ⟨hpublic, hprivate⟩
  obtain ⟨body, r, hbody, hr⟩ := takeTagged_of_decodePublic hpublic
  obtain ⟨body', r', hbody', hr'⟩ := takeTagged_of_decodePrivate hprivate
  obtain rfl : body = body' := Option.some.inj (hbody.symm.trans hbody')
  exact absurd (tag_eq_of_takeTagged hr hr') (by decide)

lemma decodePrivate_encodePublic {key : List UInt8} (h : key.length = 32) :
    decodePrivate (encodePublic key) = none := by
  rw [Option.eq_none_iff_forall_ne_some]
  rintro ⟨seed, half⟩ hprivate
  exact not_decodePublic_and_decodePrivate ⟨decodePublic_encodePublic h, hprivate⟩

lemma decodePublic_encodePrivate {seed key : List UInt8} (hseed : seed.length = 32)
    (hkey : key.length = 32) : decodePublic (encodePrivate seed key) = none := by
  rw [Option.eq_none_iff_forall_ne_some]
  intro other hpublic
  exact not_decodePublic_and_decodePrivate ⟨hpublic, decodePrivate_encodePrivate hseed hkey⟩

end KeyDocument

end Attestation
