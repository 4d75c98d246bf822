import Attestation.Proofs.Network.Block
import Attestation.Proofs.Policy.Membership

/-!
Lists of addresses and networks.

A rule that compares networks takes an address for an entry if the entry is its text or writes a
network that holds it. The spelling of the address and the host bits of the network do not matter
then, and the two versions of addresses never meet. A text that is no address is only what it is,
and an entry that is neither an address nor a network changes nothing.
-/

namespace Attestation

lemma Text.trimChars_trim (s : String) : trimChars (trim s).toList = (trim s).toList := by
  obtain ⟨before, after, heq, hbefore, hafter⟩ := exists_eq_append_trimChars s.toList
  rw [trim, String.toList_ofList]
  calc trimChars (trimChars s.toList) = trimChars (before ++ trimChars s.toList ++ after) :=
        (stripWhile_append hbefore hafter).symm
    _ = trimChars s.toList := by rw [← heq]

/-- An entry has no white space around it. -/
lemma Operand.trimChars_of_names {vs : List Json} {entry : String} (h : Names vs entry) :
    Text.trimChars entry.toList = entry.toList := by
  obtain ⟨v, -, s, -, rfl, -⟩ := h
  exact Text.trimChars_trim s

namespace Rule

open Network Operand

/-- The text, without white space around it, is an address. -/
def ReadsAs (value : String) (a : Address) : Prop :=
  Address.parse (Text.trimChars value.toList) = some a

/-- The text, without white space around it, is the network of an address with `p` bits. -/
def Blocks (entry : String) (a : Address) (p : ℕ) : Prop :=
  Writes (Text.trimChars entry.toList) a p

variable {r : Rule} {value entry : String} {a b : Address} {p : ℕ}

lemma networkHolds_iff :
    networkHolds value entry = true ↔
      ∃ a b p, ReadsAs value a ∧ Blocks entry b p ∧ Agree p b a := by
  unfold networkHolds ReadsAs Blocks
  simp only [writes_iff]
  constructor
  · intro h
    split at h
    · rename_i block a hblock ha
      exact ⟨a, _, _, ha, ⟨block, hblock, rfl, rfl⟩, (Block.contains_iff block a).1 h⟩
    · cases h
  · rintro ⟨a, b, p, ha, ⟨block, hblock, rfl, rfl⟩, hagree⟩
    rw [ha, hblock]
    exact (Block.contains_iff block a).2 hagree

lemma slash_mem_of_blocks (h : Blocks entry b p) : '/' ∈ entry.toList := by
  have hslash : '/' ∈ (Text.trim entry).toList := by
    rw [Text.trim, String.toList_ofList]
    exact slash_mem_of_writes h
  exact Text.mem_of_mem_trim hslash

/-- No text is both an address and a network. -/
lemma ne_of_blocks (ha : ReadsAs value a) (hb : Blocks entry b p) : value ≠ entry := by
  rintro rfl
  exact slash_not_mem_of_parse ha (slash_mem_of_writes hb)

lemma entryMatches_iff (hr : r.comparison = .network) : r.entryMatches value entry = true ↔
    value = entry ∨ ∃ a b p, ReadsAs value a ∧ Blocks entry b p ∧ Agree p b a := by
  have hequals : r.equals value entry = (value == entry) := by
    rw [equals, hr]
  rw [entryMatches, hequals, hr, Bool.or_eq_true, Bool.and_eq_true, Bool.and_eq_true,
    networkHolds_iff, beq_iff_eq]
  refine or_congr_right ⟨fun h => h.2, fun h => ⟨⟨rfl, ?_⟩, h⟩⟩
  obtain ⟨a, b, p, -, hb, -⟩ := h
  simpa using slash_mem_of_blocks hb

/-- An address is taken for a network that holds it. -/
lemma entryMatches_iff_of_readsAs (hr : r.comparison = .network) (ha : ReadsAs value a) :
    r.entryMatches value entry = true ↔ value = entry ∨ ∃ b p, Blocks entry b p ∧ Agree p b a := by
  rw [entryMatches_iff hr]
  refine or_congr_right ⟨?_, fun ⟨b, p, h⟩ => ⟨a, b, p, ha, h⟩⟩
  rintro ⟨a', b, p, ha', h⟩
  cases ha.symm.trans ha'
  exact ⟨b, p, h⟩

lemma entryMatches_iff_of_blocks (hr : r.comparison = .network) (ha : ReadsAs value a)
    (hb : Blocks entry b p) : r.entryMatches value entry = true ↔ Agree p b a := by
  rw [entryMatches_iff_of_readsAs hr ha, or_iff_right (ne_of_blocks ha hb)]
  refine ⟨?_, fun h => ⟨b, p, hb, h⟩⟩
  rintro ⟨b', p', hb', h⟩
  obtain ⟨block, hblock, rfl, rfl⟩ := writes_iff.1 hb
  obtain ⟨block', hblock', rfl, rfl⟩ := writes_iff.1 hb'
  cases hblock.symm.trans hblock'
  exact h

/-- An entry that is no network is only equal to itself. -/
lemma entryMatches_iff_of_not_blocks (hr : r.comparison = .network)
    (h : ∀ b p, ¬ Blocks entry b p) : r.entryMatches value entry = true ↔ value = entry := by
  rw [entryMatches_iff hr]
  refine or_iff_left ?_
  rintro ⟨a, b, p, -, hb, -⟩
  exact h b p hb

/-! ### What a list of networks means -/

/-- What a list of addresses and networks allows. -/
structure AllowsNetworks (r : Rule) : Prop where
  /-- An address is allowed if its text is an entry, or it has the leading bits of an entry that
  is a network of its version. -/
  address : ∀ value a right, ReadsAs value a → (∀ v ∈ items right, ¬ Textless v) →
    ∃ verdict, r.compare .isIn value right = .ok verdict ∧
      (verdict = true ↔ Names (items right) value ∨
        ∃ entry b p, Names (items right) entry ∧ Writes entry.toList b p ∧ Agree p b a)
  /-- Any other text is allowed if it is an entry. -/
  other : ∀ value right, (∀ a, ¬ ReadsAs value a) → (∀ v ∈ items right, ¬ Textless v) →
    ∃ verdict, r.compare .isIn value right = .ok verdict ∧
      (verdict = true ↔ Names (items right) value)
  /-- An entry that is no network, nor the text itself, might as well be left out. -/
  malformed : ∀ value entry vs, Text.trim entry ≠ value → (∀ b p, ¬ Blocks entry b p) →
    r.compare .isIn value (.array (.string entry :: vs)) = r.compare .isIn value (.array vs)
  /-- Only an item that has no text is refused. -/
  refused : ∀ value right,
    (∃ fault, r.compare .isIn value right = .error (.invalidRightOperand r.claimKey fault)) ↔
      ∃ v ∈ items right, Textless v
  /-- The network of no bits is all addresses of its version. -/
  everything : ∀ value entry, (∃ a b, ReadsAs value (.v4 a) ∧ Blocks entry (.v4 b) 0) ∨
    (∃ a b, ReadsAs value (.v6 a) ∧ Blocks entry (.v6 b) 0) → r.entryMatches value entry = true
  /-- Only the leading bits of a network count. -/
  hostBits : ∀ value entry entry' a b b' p, ReadsAs value a → Blocks entry b p →
    Blocks entry' b' p → Agree p b b' → r.entryMatches value entry = r.entryMatches value entry'
  /-- The versions do not meet, -/
  versions : ∀ value entry p, (∃ a b, ReadsAs value (.v4 a) ∧ Blocks entry (.v6 b) p) ∨
    (∃ a b, ReadsAs value (.v6 a) ∧ Blocks entry (.v4 b) p) → r.entryMatches value entry = false
  /-- and what is mapped from version 4 into version 6 is of version 6. -/
  mapped : ∀ s a, Address.parse s = some (.v4 a) →
    Address.parse ("::ffff:".toList ++ s) = some (.v6 (mapped a))

/-- One more text in front of a list is one more entry, unless it is blank. -/
lemma entries_cons_string (rule entry : String) (vs : List Json) :
    entries rule (.array (.string entry :: vs)) = (entries rule (.array vs)).map fun es =>
      if (Text.trim entry).isEmpty then es else Text.trim entry :: es := by
  have hraw : rawEntries rule (.array (.string entry :: vs)) =
      (rawEntries rule (.array vs)).map (entry :: ·) := rfl
  rw [entries, entries, hraw]
  cases rawEntries rule (.array vs) with
  | error e => rfl
  | ok es =>
    simp only [Except.map, List.map_cons, List.filter_cons]
    cases (Text.trim entry).isEmpty <;> rfl

lemma allowsNetworks_of_network (allowed : r.allows .isIn = true) (hr : r.comparison = .network) :
    r.AllowsNetworks := by
  have hcompare (value : String) (right : Json) (h : ∀ v ∈ items right, ¬ Textless v) :
      ∃ verdict, r.compare .isIn value right = .ok verdict ∧
        (verdict = true ↔ ∃ e, Names (items right) e ∧ r.entryMatches value e = true) :=
    (Membership.rule r allowed).compare_of_scalar value h
  constructor
  case address =>
    intro value a right ha hscalar
    obtain ⟨verdict, hverdict, hiff⟩ := hcompare value right hscalar
    refine ⟨verdict, hverdict, hiff.trans ?_⟩
    simp only [entryMatches_iff_of_readsAs hr ha]
    constructor
    · rintro ⟨e, he, rfl | ⟨b, p, hb, hagree⟩⟩
      · exact .inl he
      · rw [Blocks, trimChars_of_names he] at hb
        exact .inr ⟨e, b, p, he, hb, hagree⟩
    · rintro (he | ⟨e, b, p, he, hb, hagree⟩)
      · exact ⟨value, he, .inl rfl⟩
      · rw [← trimChars_of_names he] at hb
        exact ⟨e, he, .inr ⟨b, p, hb, hagree⟩⟩
  case other =>
    intro value right hnone hscalar
    obtain ⟨verdict, hverdict, hiff⟩ := hcompare value right hscalar
    refine ⟨verdict, hverdict, hiff.trans ?_⟩
    simp only [entryMatches_iff hr, hnone, false_and, exists_false, or_false, exists_eq_right']
  case malformed =>
    intro value entry vs hne hnone
    have hnone' : r.entryMatches value (Text.trim entry) = false := by
      refine Bool.eq_false_iff.2 fun h => hne.symm ((entryMatches_iff_of_not_blocks hr ?_).1 h)
      unfold Blocks at hnone ⊢
      rwa [Text.trimChars_trim, Text.trim, String.toList_ofList]
    have hlist (vs : List Json) := (Membership.rule r allowed).compare_eq value (.array vs)
    simp only [Membership.compare, Membership.accepts] at hlist
    rw [hlist, hlist, entries_cons_string]
    cases entries _ (.array vs) with
    | error e => rfl
    | ok es =>
      simp only [Except.map]
      split
      · rfl
      · rw [List.any_cons, hnone', Bool.false_or]
  case refused =>
    exact fun value right => (Membership.rule r allowed).compare_eq_error_iff
  case everything =>
    rintro value entry (⟨a, b, ha, hb⟩ | ⟨a, b, ha, hb⟩)
    · exact (entryMatches_iff_of_blocks hr ha hb).2 fun i hi => absurd hi (Nat.not_lt_zero i)
    · exact (entryMatches_iff_of_blocks hr ha hb).2 fun i hi => absurd hi (Nat.not_lt_zero i)
  case hostBits =>
    intro value entry entry' a b b' p ha hb hb' h
    rw [Bool.eq_iff_iff, entryMatches_iff_of_blocks hr ha hb, entryMatches_iff_of_blocks hr ha hb',
      agree_congr h]
  case versions =>
    rintro value entry p (⟨a, b, ha, hb⟩ | ⟨a, b, ha, hb⟩)
    · exact Bool.eq_false_iff.2 fun h => (entryMatches_iff_of_blocks hr ha hb).1 h
    · exact Bool.eq_false_iff.2 fun h => (entryMatches_iff_of_blocks hr ha hb).1 h
  case mapped => exact fun s a h => parse_mapped (parse_eq_v4_iff.1 h)

/-- **The list of addresses that may connect means leading bits.** -/
theorem allowsNetworks_ipConnector : ipConnector.AllowsNetworks :=
  allowsNetworks_of_network rfl rfl

end Rule

end Attestation
