import Attestation.Proofs.Encoding.Pem

/-!
The key documents that can be read.

From its start on, a text is split into runs that are as long as they can be: armor, which is
dashes, a label of capitals and spaces, and dashes again, and single characters other than dashes.
A document is read exactly if its text can be split, every label names the kind of key that is
asked for, and what stands outside armor is base64 once white space is taken away.
-/

namespace Attestation.Pem

/-! ### Splitting a text -/

/-- The runs of a text. A label ends where dashes begin, and the dashes that close armor end where
no dash follows; so every stretch is as long as it can be. -/
inductive Splits : List Char → List Token → Prop
  | nil : Splits [] []
  | single {c : Char} {s : List Char} {ts : List Token} (hc : c ≠ '-') (h : Splits s ts) :
    Splits (c :: s) (single c :: ts)
  | armor (m n : ℕ) {label s : List Char} {ts : List Token} (hne : label ≠ [])
    (hlabel : ∀ c ∈ label, c.isUpper = true ∨ c = ' ') (hs : s.head? ≠ some '-')
    (h : Splits s ts) :
    Splits (List.replicate (m + 1) '-' ++ (label ++ (List.replicate (n + 1) '-' ++ s)))
      (.armor label :: ts)

lemma isDash_eq_false_iff {c : Char} : isDash c = false ↔ c ≠ '-' := by
  rw [isDash, beq_eq_false_iff_ne]

lemma isLabelChar_iff {c : Char} : isLabelChar c = true ↔ c.isUpper = true ∨ c = ' ' := by
  rw [isLabelChar, Bool.or_eq_true, beq_iff_eq]

/-- The dashes at the start of a text. -/
lemma exists_dashes (s : List Char) : ∃ k, s = List.replicate k '-' ++ s.dropWhile isDash ∧
    (s.dropWhile isDash).head? ≠ some '-' := by
  refine ⟨(s.takeWhile isDash).length, ?_, ?_⟩
  · have hdashes : s.takeWhile isDash = List.replicate (s.takeWhile isDash).length '-' := by
      refine List.eq_replicate_of_mem fun c hc => ?_
      have hdash := List.mem_takeWhile_imp hc
      rwa [isDash, beq_iff_eq] at hdash
    rw [← hdashes, List.takeWhile_append_dropWhile]
  · intro hhead
    have hnot := List.head?_dropWhile_not isDash s
    rw [hhead] at hnot
    exact absurd hnot (by decide)

lemma token?_eq_none_iff {s : List Char} : token? s = none ↔ s = [] := by
  cases s with
  | nil => simp [token?]
  | cons c s =>
    simp only [token?]
    split_ifs
    · split
      · split_ifs <;> simp
      · simp
    all_goals simp

lemma tokens_of_token?_error {s : List Char} {e : PemFault} (h : token? s = some (.error e)) :
    tokens s = .error e := by
  rw [tokens]
  split <;> simp_all

/-- A run of armor is taken from the start of a text. -/
lemma token?_dash {s rest : List Char} {t : Token} (h : token? ('-' :: s) = some (.ok (t, rest))) :
    ∃ m n label, label ≠ [] ∧ (∀ c ∈ label, c.isUpper = true ∨ c = ' ') ∧
      rest.head? ≠ some '-' ∧ t = .armor label ∧
      '-' :: s = List.replicate (m + 1) '-' ++ (label ++ (List.replicate (n + 1) '-' ++ rest)) := by
  have hmark : isDash '-' = true := rfl
  simp only [token?, hmark, if_true] at h
  split at h
  · rename_i l ls d afterDash hlabel hafter
    by_cases hd : isDash d = true
    · rw [if_pos hd] at h
      obtain ⟨ht, hrest⟩ := Prod.mk.inj (Except.ok.inj (Option.some.inj h))
      obtain ⟨m, hopen, -⟩ := exists_dashes s
      obtain ⟨n, hclose, hend⟩ := exists_dashes afterDash
      rw [hrest] at hclose hend
      rw [isDash, beq_iff_eq] at hd
      rw [hd] at hafter
      refine ⟨m, n, (s.dropWhile isDash).takeWhile isLabelChar, ?_, ?_, hend, ht.symm, ?_⟩
      · rw [hlabel]
        exact List.cons_ne_nil l ls
      · exact fun c hc => isLabelChar_iff.1 (List.mem_takeWhile_imp hc)
      · rw [List.replicate_succ, List.replicate_succ, List.cons_append, List.cons_append, ← hclose,
          ← hafter, List.takeWhile_append_dropWhile, ← hopen]
    · rw [if_neg hd] at h
      cases h
  · cases h

/-- Any other character is a run of its own. -/
lemma token?_single {c : Char} {s : List Char} (hc : c ≠ '-') :
    token? (c :: s) = some (.ok (single c, s)) := by
  simp only [token?, isDash_eq_false_iff.2 hc, Bool.false_eq_true, if_false, single]
  split_ifs <;> rfl

/-- **The scan finds the split of a text**, if there is one. -/
theorem tokens_eq_ok_iff {s : List Char} {ts : List Token} : tokens s = .ok ts ↔ Splits s ts := by
  constructor
  · intro h
    -- one run is taken off at each step of the scan
    induction s using tokens.induct generalizing ts with
    | case1 s hnone =>
      rw [token?_eq_none_iff.1 hnone] at h ⊢
      rw [tokens_nil] at h
      cases h
      exact .nil
    | case2 s e herror =>
      rw [tokens_of_token?_error herror] at h
      cases h
    | case3 s t rest hsome hlt ih =>
      rw [tokens_of_token? hsome] at h
      cases hrest : tokens rest with
      | error e =>
        rw [hrest] at h
        cases h
      | ok us =>
        rw [hrest] at h
        cases h
        cases s with
        | nil => cases hsome
        | cons c s =>
          by_cases hc : c = '-'
          · subst hc
            obtain ⟨m, n, label, hne, hlabel, hend, rfl, heq⟩ := token?_dash hsome
            rw [heq]
            exact .armor m n hne hlabel hend (ih hrest)
          · rw [token?_single hc] at hsome
            cases hsome
            exact .single hc (ih hrest)
  · intro h
    induction h with
    | nil => exact tokens_nil
    | single hc _ ih =>
      exact tokens_single (List.forall_mem_singleton.2 (isDash_eq_false_iff.2 hc)) ih
    | armor m n hne hlabel hs _ ih =>
      refine tokens_armor m n hne (fun c hc => isLabelChar_iff.2 (hlabel c hc)) ?_ ih
      intro c hc
      refine isDash_eq_false_iff.2 ?_
      rintro rfl
      exact hs hc

/-! ### What the runs tell -/

/-- The characters outside armor. -/
def outside (ts : List Token) : List Char :=
  ts.filterMap fun
    | .armor _ => none
    | .body c => some c
    | .gap c => some c

lemma outside_single (c : Char) (ts : List Token) : outside (single c :: ts) = c :: outside ts := by
  unfold single
  split_ifs <;> rfl

lemma bodyChars_eq {s : List Char} {ts : List Token} (h : Splits s ts) :
    bodyChars ts = (outside ts).filter fun c => !Text.isAsciiSpace c := by
  induction h with
  | nil => rfl
  | @single c s ts _ _ ih =>
    rw [outside_single, List.filter_cons, ← ih]
    by_cases hc : Text.isAsciiSpace c = true <;> simp [bodyChars, single, hc]
  | armor m n _ _ _ _ ih => exact ih

/-- The words that may stand in the armor of a document. -/
def Names (kind : KeyKind) (label : String) : Prop :=
  label = kind.label ∨ label = "BEGIN " ++ kind.label ∨ label = "END " ++ kind.label

lemma labelName_eq_iff {kind : KeyKind} {label : String} :
    labelName label = kind.label ↔ Names kind label := by
  constructor
  · intro h
    unfold labelName at h
    split at h
    · rename_i rest heq
      have hrest : rest = kind.label.toList := by rw [← h, String.toList_ofList]
      refine .inr (.inl (String.toList_inj.1 ?_))
      rw [heq, hrest, String.toList_append]
      rfl
    · rename_i rest heq
      have hrest : rest = kind.label.toList := by rw [← h, String.toList_ofList]
      refine .inr (.inr (String.toList_inj.1 ?_))
      rw [heq, hrest, String.toList_append]
      rfl
    · exact .inl h
  · rintro (rfl | rfl | rfl) <;> cases kind <;> decide

/-- The only white space in a label is the space. -/
lemma strip_label {label : List Char} (h : ∀ c ∈ label, c.isUpper = true ∨ c = ' ') :
    Text.stripWhile (· == ' ') label = Text.trimChars label := by
  refine Text.stripWhile_congr fun c hc => ?_
  rcases h c hc with hupper | rfl
  · have hrange : 65 ≤ c.toNat ∧ c.toNat ≤ 90 := of_decide_eq_true hupper
    have hne : c ≠ ' ' := by
      rintro rfl
      exact absurd hupper (by decide)
    rw [beq_false_of_ne hne]
    unfold Text.isSpace
    simp
    omega
  · rfl

lemma label_of_mem {s : List Char} {ts : List Token} (h : Splits s ts) {label : List Char}
    (hmem : .armor label ∈ ts) : ∀ c ∈ label, c.isUpper = true ∨ c = ' ' := by
  induction h with
  | nil => exact absurd hmem List.not_mem_nil
  | @single c _ _ _ _ ih =>
    refine ih (List.mem_of_ne_of_mem ?_ hmem)
    unfold single
    split_ifs <;> exact Token.noConfusion
  | armor m n _ hlabel _ _ ih =>
    rcases List.mem_cons.1 hmem with heq | hmem
    · cases heq
      exact hlabel
    · exact ih hmem

lemma mem_labels_iff {ts : List Token} {name : List Char} :
    name ∈ labels ts ↔ ∃ label, .armor label ∈ ts ∧ Text.stripWhile (· == ' ') label = name := by
  unfold labels
  rw [List.mem_filterMap]
  constructor
  · rintro ⟨t, ht, hname⟩
    cases t with
    | armor label => exact ⟨label, ht, Option.some.inj hname⟩
    | body c => cases hname
    | gap c => cases hname
  · rintro ⟨label, hmem, rfl⟩
    exact ⟨_, hmem, rfl⟩

lemma wrongLabel?_eq_none_iff {kind : KeyKind} {s : List Char} {ts : List Token}
    (h : Splits s ts) : wrongLabel? kind ts = none ↔
      ∀ label, .armor label ∈ ts → Names kind (String.ofList (Text.trimChars label)) := by
  unfold wrongLabel?
  rw [List.find?_eq_none]
  simp only [List.mem_map, bne_iff_ne, not_not, labelName_eq_iff, forall_exists_index, and_imp,
    forall_apply_eq_imp_iff₂, mem_labels_iff]
  constructor
  · intro hnames label hmem
    rw [← strip_label (label_of_mem h hmem)]
    exact hnames label hmem
  · intro hnames label hmem
    rw [strip_label (label_of_mem h hmem)]
    exact hnames label hmem

/-! ### Leaving the armor out -/

/-- A text without its armor; a text that cannot be split keeps it. -/
def withoutArmor (pem : String) : String :=
  match tokens pem.toList with
  | .ok ts => String.ofList (outside ts)
  | .error _ => pem

lemma outside_append (ts us : List Token) : outside (ts ++ us) = outside ts ++ outside us :=
  List.filterMap_append

lemma outside_map_single (s : List Char) : outside (s.map single) = s := by
  induction s with
  | nil => rfl
  | cons c s ih => rw [List.map_cons, outside_single, ih]

lemma outside_runs {kind : KeyKind} {x : Surroundings} : outside (x.runs kind) = x.bare := by
  have harmor (label : List Char) (ts : List Token) :
      outside (.armor label :: ts) = outside ts := rfl
  rw [Surroundings.runs, outside_append, harmor, outside_append, harmor, outside_map_single,
    outside_map_single, outside_map_single, Surroundings.bare]

lemma withoutArmor_encode (kind : KeyKind) (bytes : List UInt8) :
    withoutArmor (encode kind bytes) = String.ofList (written bytes).bare := by
  have htokens : tokens (encode kind bytes).toList = .ok ((written bytes).runs kind) := by
    rw [encode_eq, String.toList_ofList]
    exact Surroundings.tokens_text (dash_notMem_written bytes) (List.cons_ne_nil _ _)
  rw [withoutArmor, htokens]
  exact congrArg String.ofList outside_runs

/-- A document without armor is read for either kind. -/
lemma decode_withoutArmor (kind other : KeyKind) {bytes : List UInt8} (h : bytes ≠ []) :
    decode other (withoutArmor (encode kind bytes)) = .ok bytes := by
  rw [withoutArmor_encode]
  exact Surroundings.decode_bare h (dash_notMem_written bytes) (filter_written bytes).2 other

/-! ### Reading -/

/-- The text holds the bytes as a document of the kind. -/
def Holds (kind : KeyKind) (pem : String) (bytes : List UInt8) : Prop :=
  ∃ ts, Splits pem.toList ts ∧
    (∀ label, .armor label ∈ ts → Names kind (String.ofList (Text.trimChars label))) ∧
    bytes ≠ [] ∧ (outside ts).filter (fun c => !Text.isAsciiSpace c) = Base64.encode bytes

lemma decode_eq_ok_iff_tokens {kind : KeyKind} {pem : String} {bytes : List UInt8} :
    decode kind pem = .ok bytes ↔ ∃ ts, tokens pem.toList = .ok ts ∧ wrongLabel? kind ts = none ∧
      bodyChars ts ≠ [] ∧ Base64.decode (bodyChars ts) = some bytes := by
  unfold decode
  cases tokens pem.toList with
  | error fault => simp
  | ok ts =>
    cases hlabel : wrongLabel? kind ts with
    | some label => simp [hlabel]
    | none =>
      cases hbody : bodyChars ts with
      | nil => simp [hlabel, hbody]
      | cons c cs => cases hbytes : Base64.decode (c :: cs) <;> simp [hlabel, hbody, hbytes]

lemma decode_eq_ok_iff {kind : KeyKind} {pem : String} {bytes : List UInt8} :
    decode kind pem = .ok bytes ↔ Holds kind pem bytes := by
  rw [decode_eq_ok_iff_tokens]
  refine exists_congr fun ts => ?_
  rw [tokens_eq_ok_iff]
  refine and_congr_right fun hts => ?_
  rw [wrongLabel?_eq_none_iff hts, Base64.decode_eq_some_iff, ← bodyChars_eq hts]
  -- only the empty sequence is written as the empty text
  refine and_congr_right fun _ => and_congr_left fun hbody => not_congr ?_
  rw [hbody]
  refine ⟨fun h => ?_, fun h => by rw [h, Base64.encode]⟩
  by_contra hne
  exact Base64.encode_ne_nil hne h

lemma exists_invalidPem {kind : KeyKind} {pem : String} {e : Error} (h : decode kind pem = .error e) :
    ∃ fault, e = .invalidPem fault := by
  unfold decode at h
  split at h
  · cases h
    exact ⟨_, rfl⟩
  · split at h
    · cases h
      exact ⟨_, rfl⟩
    · split at h
      · cases h
        exact ⟨_, rfl⟩
      · split at h <;> cases h
        exact ⟨_, rfl⟩

/-- **A document is read exactly if it follows the grammar**, as the bytes it holds; every other
text is refused as no key document. -/
theorem reads_exactly (kind : KeyKind) (pem : String) :
    (∀ bytes, decode kind pem = .ok bytes ↔ Holds kind pem bytes) ∧
      ((∃ fault, decode kind pem = .error (.invalidPem fault)) ↔
        ¬ ∃ bytes, Holds kind pem bytes) := by
  refine ⟨fun bytes => decode_eq_ok_iff, ?_⟩
  constructor
  · rintro ⟨fault, hfault⟩ ⟨bytes, hbytes⟩
    rw [decode_eq_ok_iff.2 hbytes] at hfault
    cases hfault
  · intro hnone
    cases h : decode kind pem with
    | ok bytes => exact absurd ⟨bytes, decode_eq_ok_iff.1 h⟩ hnone
    | error e =>
      obtain ⟨fault, rfl⟩ := exists_invalidPem h
      exact ⟨fault, rfl⟩

end Attestation.Pem
