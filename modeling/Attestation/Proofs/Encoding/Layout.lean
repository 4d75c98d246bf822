import Attestation.Proofs.Encoding.Pem

/-!
The layout of a key document carries no meaning.

Line feeds may be taken out and ASCII white space put in, anywhere but inside the two armor runs,
down to a document of one line in which the armor touches the body. The bytes stay the same, even
when the armor is left out.
-/

namespace Attestation.Pem

/-! ### Lines -/

/-- The lines of a wrapped text are full, up to the last one. -/
lemma exists_lines (width : ℕ) {s : List Char} (hs : s ≠ []) :
    ∃ (full : List (List Char)) (last : List Char),
      wrap width s = (full ++ [last]).flatMap (· ++ ['\n']) ∧ (full ++ [last]).flatten = s ∧
        (∀ line ∈ full, line.length = width + 1) ∧
          1 ≤ last.length ∧ last.length ≤ width + 1 := by
  induction s using wrap.induct width with
  | case1 => exact absurd rfl hs
  | case2 c s ih =>
    by_cases hrest : s.drop width = []
    · have htake : s.take width = s := List.take_of_length_le (List.drop_eq_nil_iff.1 hrest)
      refine ⟨[], c :: s, ?_, by simp, by simp, by simp, ?_⟩
      · rw [wrap_cons, hrest, htake]
        simp [wrap]
      · exact Nat.succ_le_succ (List.drop_eq_nil_iff.1 hrest)
    · obtain ⟨full, last, hwrap, hflatten, hfull, hlast⟩ := ih hrest
      have hlength : (c :: s.take width).length = width + 1 := by
        rw [List.drop_eq_nil_iff, not_le] at hrest
        rw [List.length_cons, List.length_take, Nat.min_eq_left hrest.le]
      refine ⟨(c :: s.take width) :: full, last, ?_, ?_, ?_, hlast⟩
      · have hlines : (c :: s.take width) :: full ++ [last] =
            (c :: s.take width) :: (full ++ [last]) := rfl
        rw [wrap_cons, hwrap, hlines, List.flatMap_cons, List.append_assoc]
        rfl
      · rw [List.cons_append, List.flatten_cons, hflatten, List.cons_append, List.take_append_drop]
      · exact List.forall_mem_cons.2 ⟨hlength, hfull⟩

/-! ### Layouts -/

/-- Line feeds are taken out of a text and ASCII white space is put in. -/
inductive Relaid : List Char → List Char → Prop
  | nil : Relaid [] []
  | keep {s t : List Char} (c : Char) (h : Relaid s t) : Relaid (c :: s) (c :: t)
  | delete {s t : List Char} (h : Relaid s t) : Relaid ('\n' :: s) t
  | insert {s t : List Char} {c : Char} (hc : Text.isAsciiSpace c = true) (h : Relaid s t) :
    Relaid s (c :: t)

namespace Relaid

variable {s s' t t' : List Char}

lemma refl (s : List Char) : Relaid s s := by
  induction s with
  | nil => exact .nil
  | cons c s ih => exact .keep c ih

lemma append (h : Relaid s t) (h' : Relaid s' t') : Relaid (s ++ s') (t ++ t') := by
  induction h with
  | nil => exact h'
  | keep c _ ih => exact .keep c ih
  | delete _ ih => exact .delete ih
  | insert hc _ ih => exact .insert hc ih

lemma filter_eq (h : Relaid s t) : t.filter (fun c => !Text.isAsciiSpace c) =
    s.filter fun c => !Text.isAsciiSpace c := by
  induction h with
  | nil => rfl
  | keep c _ ih => rw [List.filter_cons, List.filter_cons, ih]
  | delete _ ih => rw [ih, List.filter_cons_of_neg (by decide)]
  | insert hc _ ih => rw [List.filter_cons_of_neg (by simp [hc]), ih]

lemma dash_notMem (h : Relaid s t) (hs : '-' ∉ s) : '-' ∉ t := by
  induction h with
  | nil => exact hs
  | keep c _ ih =>
    rw [List.mem_cons, not_or] at hs ⊢
    exact ⟨hs.1, ih hs.2⟩
  | delete _ ih => exact ih fun hmem => hs (List.mem_cons_of_mem _ hmem)
  | insert hc _ ih =>
    rw [List.mem_cons, not_or]
    refine ⟨?_, ih hs⟩
    rintro rfl
    exact absurd hc (by decide)

/-- All lines are joined to one. -/
lemma unwrap (width : ℕ) (s : List Char) : Relaid (wrap width s) s := by
  induction s using wrap.induct width with
  | case1 =>
    rw [wrap]
    exact .nil
  | case2 c s ih =>
    have hjoin : Relaid (c :: s.take width ++ '\n' :: wrap width (s.drop width))
        (c :: s.take width ++ s.drop width) := (refl _).append (.delete ih)
    rwa [← wrap_cons, List.cons_append, List.take_append_drop] at hjoin

end Relaid

namespace Surroundings

/-- All is laid out anew but the armor runs. -/
structure Relaid (x y : Surroundings) : Prop where
  before : Pem.Relaid x.before y.before
  between : Pem.Relaid x.between y.between
  after : Pem.Relaid x.after y.after

variable {kind : KeyKind} {x y : Surroundings}

lemma Relaid.bare (h : x.Relaid y) : Pem.Relaid x.bare y.bare :=
  h.before.append (h.between.append h.after)

/-! ### Where the armor is -/

/-- The first dash begins an armor run. -/
lemma armorRun_inj {word : String} {s t u v : List Char} (hs : '-' ∉ s) (ht : '-' ∉ t)
    (h : s ++ (armorRun word kind ++ u) = t ++ (armorRun word kind ++ v)) : s = t ∧ u = v := by
  have run {s : List Char} (u : List Char) (hs : '-' ∉ s) :
      (s ++ (armorRun word kind ++ u)).takeWhile (fun c => !isDash c) = s := by
    refine (Text.takeWhile_run (fun c hc => ?_) ?_).1
    · have hne : c ≠ '-' := fun heq => hs (heq ▸ hc)
      simpa [isDash] using hne
    · rw [armorRun, List.replicate_succ]
      simp [isDash]
  have hst : s = t := by rw [← run u hs, h, run v ht]
  rw [hst] at h
  exact ⟨hst, List.append_cancel_left (List.append_cancel_left h)⟩

lemma count_text (kind : KeyKind) (x : Surroundings) :
    (x.text kind).count '-' = x.bare.count '-' + 20 := by
  have hrun : (armorRun "BEGIN" kind).count '-' = 10 ∧ (armorRun "END" kind).count '-' = 10 := by
    cases kind <;> decide
  simp only [text, bare, List.count_append, hrun.1, hrun.2]
  omega

/-- There is one way to find the armor runs in a document without other dashes. -/
lemma eq_of_text_eq (hy : '-' ∉ y.bare) (h : x.text kind = y.text kind) : x = y := by
  have hx : '-' ∉ x.bare := by
    have hcount := count_text kind x
    rw [h, count_text, List.count_eq_zero.2 hy] at hcount
    exact List.count_eq_zero.1 (by omega)
  simp only [bare, List.mem_append, not_or] at hx hy
  obtain ⟨hbefore, h⟩ := armorRun_inj hx.1 hy.1 h
  obtain ⟨hbetween, hafter⟩ := armorRun_inj hx.2.1 hy.2.1 h
  cases x
  cases y
  cases hbefore
  cases hbetween
  cases hafter
  rfl

end Surroundings

lemma eq_written {kind : KeyKind} {bytes : List UInt8} {x : Surroundings}
    (hx : x.text kind = (encode kind bytes).toList) : x = written bytes := by
  rw [encode_eq, String.toList_ofList] at hx
  exact Surroundings.eq_of_text_eq (dash_notMem_written bytes) hx

/-! ### Reading any layout -/

lemma decode_relaid {bytes : List UInt8} (h : bytes ≠ []) {y : Surroundings}
    (hy : (written bytes).Relaid y) (kind other : KeyKind) :
    decode other (String.ofList (y.text kind)) =
        (if other = kind then .ok bytes
        else .error (.invalidPem (.wrongLabel other.label ("BEGIN " ++ kind.label)))) ∧
      decode other (String.ofList y.bare) = .ok bytes := by
  have hdash : '-' ∉ y.bare := hy.bare.dash_notMem (dash_notMem_written bytes)
  have hbody := hy.bare.filter_eq.trans (filter_written bytes).2
  have hne : y.between ≠ [] := by
    intro hnil
    have hbetween := hy.between.filter_eq.trans (filter_written bytes).1
    rw [hnil] at hbetween
    exact Base64.encode_ne_nil h hbetween.symm
  exact ⟨Surroundings.decode_text h hdash hne hbody other,
    Surroundings.decode_bare h hdash hbody other⟩

lemma exists_lines_encode (kind : KeyKind) {bytes : List UInt8} (h : bytes ≠ []) :
    ∃ (full : List (List Char)) (last : List Char),
      (encode kind bytes).toList = (armorRun "BEGIN" kind :: (full ++ [last]) ++
        [armorRun "END" kind]).flatMap (· ++ ['\n']) ∧
      (full ++ [last]).flatten = Base64.encode bytes ∧
      (∀ line ∈ full, line.length = 64) ∧ 1 ≤ last.length ∧ last.length ≤ 64 := by
  obtain ⟨full, last, hwrap, hflatten, hlines⟩ := exists_lines 63 (Base64.encode_ne_nil h)
  refine ⟨full, last, ?_, hflatten, hlines⟩
  rw [encode, String.toList_ofList, armorLine_eq, armorLine_eq, hwrap]
  simp only [List.cons_append, List.flatMap_cons, List.flatMap_append, List.flatMap_nil,
    List.append_nil, List.nil_append, List.append_assoc]

/-- **A key document is read back from every layout of it, and without its armor; under the other
kind it is refused.** Its armor runs are in one place, so a layout is what leaves these two as
they are. As it is written, all lines of its body have 64 characters, but for the last one. -/
theorem layout_free (kind : KeyKind) {bytes : List UInt8} (h : bytes ≠ []) :
    (∃! x : Surroundings, x.text kind = (encode kind bytes).toList) ∧
      (∀ x y : Surroundings, x.text kind = (encode kind bytes).toList → x.Relaid y →
        decode kind (String.ofList (y.text kind)) = .ok bytes ∧
          decode kind (String.ofList y.bare) = .ok bytes ∧
          ∀ other ≠ kind, decode other (String.ofList (y.text kind)) =
            .error (.invalidPem (.wrongLabel other.label ("BEGIN " ++ kind.label)))) ∧
      ∃ (full : List (List Char)) (last : List Char),
        (encode kind bytes).toList = (armorRun "BEGIN" kind :: (full ++ [last]) ++
          [armorRun "END" kind]).flatMap (· ++ ['\n']) ∧
        (full ++ [last]).flatten = Base64.encode bytes ∧
        (∀ line ∈ full, line.length = 64) ∧ 1 ≤ last.length ∧ last.length ≤ 64 := by
  refine ⟨⟨written bytes, by rw [encode_eq, String.toList_ofList], fun x => eq_written⟩,
    fun x y hx hxy => ?_, exists_lines_encode kind h⟩
  rw [eq_written hx] at hxy
  refine ⟨?_, (decode_relaid h hxy kind kind).2, fun other hother => ?_⟩
  · rw [(decode_relaid h hxy kind kind).1, if_pos rfl]
  · rw [(decode_relaid h hxy kind other).1, if_neg hother]

/-- The document on one line, in which the armor touches the body. -/
def flat (bytes : List UInt8) : Surroundings := ⟨[], Base64.encode bytes, []⟩

lemma written_relaid_flat (bytes : List UInt8) : (written bytes).Relaid (flat bytes) where
  before := .nil
  between := .delete (.unwrap 63 _)
  after := .delete .nil

theorem layout_free_flat :
    String.ofList ((flat [255, 255]).text .verifying) =
        "-----BEGIN PUBLIC KEY-----//8=-----END PUBLIC KEY-----" ∧
      decode .verifying (String.ofList ((flat [255, 255]).text .verifying)) = .ok [255, 255] := by
  obtain ⟨⟨x, hx, -⟩, hlayout, -⟩ :=
    layout_free .verifying (List.cons_ne_nil (255 : UInt8) [255])
  have hflat : x.Relaid (flat [255, 255]) := eq_written hx ▸ written_relaid_flat _
  exact ⟨by decide, (hlayout x _ hx hflat).1⟩

end Attestation.Pem
