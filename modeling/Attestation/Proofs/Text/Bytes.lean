import Attestation.Text.Bytes
import Mathlib.Tactic.Lemma

/-!
A text is told by its bytes, and read back from them.
-/

namespace Attestation.Text

lemma toByteArray_ofList (s : List Char) :
    (String.ofList s).toByteArray = ⟨(utf8Chars s).toArray⟩ := by
  rw [String.toByteArray_ofList, List.utf8Encode]
  exact ByteArray.ext (by simp [utf8Chars])

lemma utf8Chars_injective {s t : List Char} (h : Text.utf8Chars s = Text.utf8Chars t) :
    s = t := by
  have hbytes : (String.ofList s).toByteArray = (String.ofList t).toByteArray := by
    rw [toByteArray_ofList, toByteArray_ofList, h]
  exact String.ofList_injective (String.toByteArray_inj.1 hbytes)

lemma toByteArray_eq (s : String) : s.toByteArray = ⟨(utf8 s).toArray⟩ := by
  rw [utf8, ← toByteArray_ofList, String.ofList_toList]

/-- **A text is read back from its bytes.** -/
theorem ofUtf8?_utf8 (s : String) : ofUtf8? (utf8 s) = some s := by
  rw [ofUtf8?, ← toByteArray_eq, String.fromUTF8?, dif_pos s.isValidUTF8]
  rfl

/-- Bytes are well-formed exactly when they are those of a text. -/
lemma ofUtf8?_eq_some_iff {bytes : List UInt8} {s : String} :
    ofUtf8? bytes = some s ↔ bytes = utf8 s := by
  constructor
  · intro h
    unfold ofUtf8? String.fromUTF8? at h
    split at h
    · rename_i hvalid
      have hbytes := toByteArray_eq s
      rw [← Option.some.inj h] at hbytes ⊢
      exact List.toArray_inj (ByteArray.mk.inj hbytes)
    · cases h
  · rintro rfl
    exact ofUtf8?_utf8 s

end Attestation.Text
