import Attestation.Proofs.Encoding.Grammar
import Attestation.Proofs.Text.Boundary

/-!
The runs of a text are found among its bytes.

Armor and white space are ASCII. So the bytes of a text, each taken as the character of its number,
split as the text does: with the same labels, and with the bytes of its body as their body. A body
of base64 is ASCII too, and other bodies are refused either way.
-/

namespace Attestation.Pem

/-! ### Kinds of characters -/

lemma isAscii_of_isDash (c : Char) (h : isDash c = true) : Text.isAscii c = true := by
  rw [beq_iff_eq.1 h]
  rfl

lemma isAscii_of_isLabelChar (c : Char) (h : isLabelChar c = true) : Text.isAscii c = true := by
  rcases isLabelChar_iff.1 h with hupper | rfl
  · have hrange : 65 ≤ c.toNat ∧ c.toNat ≤ 90 := of_decide_eq_true hupper
    exact Text.isAscii_iff.2 (by omega)
  · rfl

lemma isAscii_of_isAsciiSpace (c : Char) (h : Text.isAsciiSpace c = true) :
    Text.isAscii c = true := by
  simp only [Text.isAsciiSpace, Bool.or_eq_true, beq_iff_eq] at h
  rcases h with (((rfl | rfl) | rfl) | rfl) | rfl <;> rfl

/-! ### Runs -/

/-- The run at a dash, told by its stretches. -/
lemma token?_of_dash (s : List Char) : token? ('-' :: s) =
    let label := (('-' :: s).dropWhile isDash).takeWhile isLabelChar
    let afterLabel := (('-' :: s).dropWhile isDash).dropWhile isLabelChar
    if label = [] ∨ afterLabel.takeWhile isDash = [] then some (.error .malformedArmor)
    else some (.ok (.armor label, afterLabel.dropWhile isDash)) := by
  have hmark : isDash '-' = true := rfl
  simp only [token?, hmark, if_true, List.dropWhile_cons_of_pos]
  cases (s.dropWhile isDash).takeWhile isLabelChar with
  | nil => rfl
  | cons l ls =>
    cases (s.dropWhile isDash).dropWhile isLabelChar with
    | nil => rfl
    | cons d ds => by_cases hd : isDash d = true <;> simp [hd]

/-- Armor is the same run among the bytes. -/
lemma token?_byteChars_of_dash (s : List Char) : token? (Text.byteChars ('-' :: s)) =
    (token? ('-' :: s)).map (Except.map fun (t, rest) => (t, Text.byteChars rest)) := by
  have hcons : Text.byteChars ('-' :: s) = '-' :: Text.byteChars s :=
    Text.byteChars_cons_of_ascii rfl s
  rw [hcons, token?_of_dash, token?_of_dash, ← hcons]
  dsimp only
  rw [(Text.takeWhile_byteChars isAscii_of_isDash _).2,
    (Text.takeWhile_byteChars isAscii_of_isLabelChar _).1,
    (Text.takeWhile_byteChars isAscii_of_isLabelChar _).2,
    (Text.takeWhile_byteChars isAscii_of_isDash _).1,
    (Text.takeWhile_byteChars isAscii_of_isDash _).2]
  split_ifs <;> rfl

/-- Any other character is as many runs as it has bytes. -/
lemma tokens_byteChars_cons {c : Char} (hc : c ≠ '-') (s : List Char) :
    tokens (Text.byteChars (c :: s)) =
      (tokens (Text.byteChars s)).map ((Text.byteChars [c]).map single ++ ·) := by
  rw [Text.byteChars_cons]
  exact tokens_append_of_not_dash
    (Text.not_of_mem_byteChars isAscii_of_isDash (isDash_eq_false_iff.2 hc)) _

lemma filter_byteChars (c : Char) :
    (Text.byteChars [c]).filter (fun d => !Text.isAsciiSpace d) =
      Text.byteChars (bodyChars [single c]) := by
  cases hc : Text.isAsciiSpace c with
  | true =>
    rw [Text.byteChars_of_ascii (List.forall_mem_singleton.2 (isAscii_of_isAsciiSpace c hc))]
    simp [single, hc, bodyChars]
  | false =>
    rw [List.filter_eq_self.2]
    · simp [single, hc, bodyChars]
    · intro d hd
      rw [Text.not_of_mem_byteChars isAscii_of_isAsciiSpace hc d hd]
      rfl

/-- What the runs of a text tell: the labels, and the body as `spell` writes it. -/
def told (spell : List Char → List Char) (runs : Except PemFault (List Token)) :
    Except PemFault (List (List Char) × List Char) :=
  runs.map fun ts => (labels ts, spell (bodyChars ts))

/-- What is in front of a text has its part in what is told. -/
lemma told_append (front t : List Token) {bytes runs : Except PemFault (List Token)}
    (hlabels : labels front = labels t) (hbody : bodyChars front = Text.byteChars (bodyChars t))
    (h : told id bytes = told Text.byteChars runs) :
    told id (bytes.map (front ++ ·)) = told Text.byteChars (runs.map (t ++ ·)) := by
  cases bytes with
  | error e =>
    cases runs with
    | error f => exact h
    | ok us => cases h
  | ok ts =>
    cases runs with
    | error f => cases h
    | ok us =>
      obtain ⟨hl, hb⟩ := Prod.mk.inj (Except.ok.inj h)
      refine congrArg Except.ok (Prod.ext ?_ ?_)
      · change labels (front ++ ts) = labels (t ++ us)
        rw [labels_append, labels_append, hlabels, hl]
      · change bodyChars (front ++ ts) = Text.byteChars (bodyChars (t ++ us))
        rw [bodyChars_append, bodyChars_append, Text.byteChars_append, hbody]
        exact congrArg _ hb

/-- **The bytes of a text split as the text does.** -/
theorem told_byteChars (s : List Char) :
    told id (tokens (Text.byteChars s)) = told Text.byteChars (tokens s) := by
  -- one run of the text at a time: armor is one run of the bytes, a character may be several
  induction s using tokens.induct with
  | case1 s hnone =>
    rw [token?_eq_none_iff.1 hnone, Text.byteChars_nil, tokens_nil]
    rfl
  | case2 s fault herror =>
    cases s with
    | nil => cases herror
    | cons c s =>
      by_cases hc : c = '-'
      · subst hc
        have hbytes := token?_byteChars_of_dash s
        rw [herror] at hbytes
        rw [tokens_of_token?_error herror, tokens_of_token?_error hbytes]
        rfl
      · rw [token?_single hc] at herror
        cases herror
  | case3 s t rest hsome hlt ih =>
    rw [tokens_of_token? hsome]
    cases s with
    | nil => cases hsome
    | cons c s =>
      by_cases hc : c = '-'
      · subst hc
        have hbytes := token?_byteChars_of_dash s
        rw [hsome] at hbytes
        obtain ⟨m, n, label, -, -, -, rfl, -⟩ := token?_dash hsome
        rw [tokens_of_token? hbytes]
        exact told_append [.armor label] [.armor label] rfl rfl ih
      · rw [token?_single hc] at hsome
        cases hsome
        rw [tokens_byteChars_cons hc]
        refine told_append _ [single c] ?_ ?_ ih
        · rw [labels_single, ← List.map_singleton, labels_single]
        · rw [bodyChars_single, filter_byteChars]

/-! ### Base64 among the bytes -/

/-- A body is base64 if its bytes are. -/
lemma decode_byteChars {s : List Char} {bytes : List UInt8} :
    Base64.decode (Text.byteChars s) = some bytes ↔ Base64.decode s = some bytes := by
  have hencode : Text.byteChars (Base64.encode bytes) = Base64.encode bytes :=
    Text.byteChars_of_ascii fun c hc =>
      Base64.isAscii_of_isBase64Char (Base64.isBase64Char_of_mem_encode bytes c hc)
  rw [Base64.decode_eq_some_iff, Base64.decode_eq_some_iff]
  constructor
  · exact fun h => Text.byteChars_injective (h.trans hencode.symm)
  · exact fun h => by rw [h, hencode]

end Attestation.Pem
