import Attestation.Proofs.Network.Address
import Mathlib.Data.Nat.Bitwise

/-!
Networks.

The text of a network is an address, a slash, and the number of leading bits that count, in decimal
or, in version 4, as a mask of that many ones. An address is in the network if it is of the same
version and has the same leading bits.
-/

namespace Attestation.Network

/-! ### Leading bits -/

/-- The first `p` bits of two words are the same. -/
def SamePrefix {w : ℕ} (p : ℕ) (a b : BitVec w) : Prop := ∀ i < p, a.getMsbD i = b.getMsbD i

variable {w p : ℕ}

lemma getMsbD_eq_testBit (a : BitVec w) {i : ℕ} (hi : i < w) :
    a.getMsbD i = a.toNat.testBit (w - 1 - i) := by
  rw [BitVec.getMsbD_eq_getLsbD, decide_eq_true hi, Bool.true_and, BitVec.testBit_toNat]

/-- To drop the bits behind the first `p` is to divide. -/
lemma div_eq_div_iff {a b : BitVec w} (hp : p ≤ w) :
    a.toNat / 2 ^ (w - p) = b.toNat / 2 ^ (w - p) ↔ SamePrefix p a b := by
  have hbit (c : BitVec w) (j : ℕ) :
      (c.toNat / 2 ^ (w - p)).testBit j = c.toNat.testBit (w - p + j) := by
    rw [← Nat.shiftRight_eq_div_pow, Nat.testBit_shiftRight]
  constructor
  · intro h i hi
    have hplace : w - 1 - i = w - p + (p - 1 - i) := by omega
    rw [getMsbD_eq_testBit a (by omega), getMsbD_eq_testBit b (by omega), hplace, ← hbit, ← hbit, h]
  · intro h
    refine Nat.eq_of_testBit_eq fun j => ?_
    rw [hbit, hbit]
    rcases Nat.lt_or_ge j p with hj | hj
    · have hplace : w - p + j = w - 1 - (p - 1 - j) := by omega
      rw [hplace, ← getMsbD_eq_testBit a (by omega), ← getMsbD_eq_testBit b (by omega)]
      exact h _ (by omega)
    · have hhigh (c : BitVec w) : c.toNat.testBit (w - p + j) = false := by
        rw [BitVec.testBit_toNat]
        exact BitVec.getLsbD_of_ge c _ (by omega)
      rw [hhigh, hhigh]

/-- The addresses are of one version and their first `p` bits are the same. -/
def Agree (p : ℕ) : Address → Address → Prop
  | .v4 a, .v4 b => SamePrefix p a b
  | .v6 a, .v6 b => SamePrefix p a b
  | _, _ => False

/-- Addresses that agree with each other agree with the same others. -/
lemma agree_congr {a b c : Address} (h : Agree p a b) : Agree p a c ↔ Agree p b c := by
  have hwords {w : ℕ} {x y z : BitVec w} (h : SamePrefix p x y) :
      SamePrefix p x z ↔ SamePrefix p y z :=
    forall₂_congr fun i hi => by rw [h i hi]
  cases a with
  | v4 x =>
    cases b with
    | v4 y =>
      cases c with
      | v4 z => exact hwords h
      | v6 z => exact Iff.rfl
    | v6 y => exact absurd h id
  | v6 x =>
    cases b with
    | v4 y => exact absurd h id
    | v6 y =>
      cases c with
      | v4 z => exact Iff.rfl
      | v6 z => exact hwords h

namespace Block

/-- The address of a network, whose other bits are ignored. -/
def base : Block → Address
  | .v4 a _ => .v4 a
  | .v6 a _ => .v6 a

/-- The number of bits that count. -/
def bits : Block → ℕ
  | .v4 _ p => p
  | .v6 _ p => p

/-- **A network contains the addresses that have its leading bits.** -/
theorem contains_iff (block : Block) (a : Address) :
    block.contains a = true ↔ Agree block.bits block.base a := by
  cases block with
  | v4 b p =>
    cases a with
    | v4 a =>
      rw [contains, beq_iff_eq]
      exact div_eq_div_iff (Nat.le_of_lt_succ p.isLt)
    | v6 a => simp [contains, base, Agree]
  | v6 b p =>
    cases a with
    | v4 a => simp [contains, base, Agree]
    | v6 a =>
      rw [contains, beq_iff_eq]
      exact div_eq_div_iff (Nat.le_of_lt_succ p.isLt)

end Block

/-! ### Masks -/

/-- A mask of `p` ones and only zeros behind them. -/
def IsMask (mask : BitVec 32) (p : ℕ) : Prop :=
  p ≤ 32 ∧ ∀ i < 32, mask.getMsbD i = decide (i < p)

lemma testBit_two_pow_sub {k n : ℕ} (h : k ≤ n) (j : ℕ) :
    (2 ^ n - 2 ^ k).testBit j = decide (k ≤ j ∧ j < n) := by
  have hfactor : 2 ^ n - 2 ^ k = 2 ^ k * (2 ^ (n - k) - 1) := by
    rw [Nat.mul_sub, mul_one, ← pow_add, Nat.add_sub_cancel' h]
  rw [hfactor, Nat.testBit_two_pow_mul, Nat.testBit_two_pow_sub_one, Bool.eq_iff_iff]
  simp only [Bool.and_eq_true, decide_eq_true_eq]
  omega

lemma isMask_iff {mask : BitVec 32} {p : ℕ} :
    IsMask mask p ↔ p ≤ 32 ∧ mask.toNat = 2 ^ 32 - 2 ^ (32 - p) := by
  have hbits (hp : p ≤ 32) (i : ℕ) (hi : i < 32) :
      (2 ^ 32 - 2 ^ (32 - p)).testBit (32 - 1 - i) = decide (i < p) := by
    rw [testBit_two_pow_sub (by omega), Bool.eq_iff_iff]
    simp only [decide_eq_true_eq]
    omega
  have hlt : 2 ^ 32 - 2 ^ (32 - p) < 2 ^ 32 := by
    have := Nat.two_pow_pos (32 - p)
    omega
  refine and_congr_right fun hp => ?_
  constructor
  · intro h
    have heq : mask = BitVec.ofNat 32 (2 ^ 32 - 2 ^ (32 - p)) := by
      refine BitVec.eq_of_getMsbD_eq fun i hi => ?_
      rw [h i hi, getMsbD_eq_testBit _ hi, BitVec.toNat_ofNat, Nat.mod_eq_of_lt hlt, hbits hp i hi]
    rw [heq, BitVec.toNat_ofNat, Nat.mod_eq_of_lt hlt]
  · intro h i hi
    rw [getMsbD_eq_testBit _ hi, h, hbits hp i hi]

lemma maskBits?_eq_some_iff {mask : BitVec 32} {p : Fin 33} :
    maskBits? mask = some p ↔ IsMask mask p := by
  have hmask (q : Fin 33) :
      IsMask mask q ↔ mask.toNat = 0x100000000 - Nat.pow 2 (32 - q.val) := by
    rw [isMask_iff]
    exact and_iff_right (Nat.le_of_lt_succ q.isLt)
  have hunique (q : Fin 33) (hp : IsMask mask p) (hq : IsMask mask q) : q = p := by
    have hle (r : Fin 33) : 2 ^ (32 - r.val) ≤ 2 ^ 32 := Nat.pow_le_pow_right Nat.two_pos (by omega)
    have hpow : 2 ^ (32 - q.val) = 2 ^ (32 - p.val) := by
      have hp := (isMask_iff.1 hp).2
      have hq := (isMask_iff.1 hq).2
      have := hle p
      have := hle q
      omega
    have := Nat.pow_right_injective le_rfl hpow
    omega
  unfold maskBits?
  constructor
  · intro h
    exact (hmask p).2 (by simpa using List.find?_some h)
  · intro h
    have hsome : ((List.finRange 33).find? fun q =>
        mask.toNat = 0x100000000 - Nat.pow 2 (32 - q.val)).isSome = true :=
      List.find?_isSome.2 ⟨p, List.mem_finRange p, decide_eq_true ((hmask p).1 h)⟩
    obtain ⟨q, hq⟩ := Option.isSome_iff_exists.1 hsome
    rw [hq, hunique q h ((hmask q).2 (by simpa using List.find?_some hq))]

/-! ### The text of a network -/

/-- A decimal number, with leading zeros and a plus sign allowed. -/
def IsDecimal (s : List Char) (n : ℕ) : Prop :=
  ∃ ds, (s = ds ∨ s = '+' :: ds) ∧ ds ≠ [] ∧ (∀ c ∈ ds, c.isDigit = true) ∧
    Nat.ofDigitChars 10 ds 0 = n

lemma digitsValue_eq_some_iff {ds : List Char} {n : ℕ} :
    (if ds.isEmpty || !ds.all Char.isDigit then none
      else some (ds.foldl (fun n c => 10 * n + (c.toNat - 48)) 0)) = some n ↔
      ds ≠ [] ∧ (∀ c ∈ ds, c.isDigit = true) ∧ Nat.ofDigitChars 10 ds 0 = n := by
  have hvalue : ds.foldl (fun n c => 10 * n + (c.toNat - 48)) 0 = Nat.ofDigitChars 10 ds 0 := rfl
  rw [hvalue, ← List.all_eq_true, ← and_assoc]
  split_ifs with h
  · simp only [Bool.or_eq_true, List.isEmpty_iff, Bool.not_eq_true'] at h
    refine iff_of_false (by simp) fun hds => ?_
    rcases h with h | h
    · exact hds.1.1 h
    · simp [h] at hds
  · simp only [Bool.or_eq_true, List.isEmpty_iff, Bool.not_eq_true', not_or,
      Bool.not_eq_false] at h
    rw [Option.some.injEq, and_iff_right h]

lemma bits?_eq_some_iff {s : List Char} {n : ℕ} : bits? s = some n ↔ IsDecimal s n := by
  have hplus (ds : List Char) (hds : ∀ c ∈ ds, c.isDigit = true) (rest : List Char) :
      ds ≠ '+' :: rest := fun h => by
    have := hds '+' (by simp [h])
    simp at this
  unfold bits? IsDecimal
  split
  · rename_i ds
    rw [digitsValue_eq_some_iff]
    constructor
    · exact fun h => ⟨ds, .inr rfl, h⟩
    · rintro ⟨es, heq | heq, h⟩
      · exact absurd heq.symm (hplus es h.2.1 ds)
      · rwa [← (List.cons.inj heq).2] at h
  · rename_i hs
    rw [digitsValue_eq_some_iff]
    constructor
    · exact fun h => ⟨s, .inl rfl, h⟩
    · rintro ⟨es, heq | heq, h⟩
      · rwa [← heq] at h
      · exact absurd heq (hs es)

/-- The text of a network of the addresses whose first `p` bits are those of an address. -/
inductive Writes : List Char → Address → ℕ → Prop
  | v4 {addr count : List Char} {a : BitVec 32} {p : ℕ}
    (haddr : Address.parse addr = some (.v4 a)) (hcount : IsDecimal count p) (hp : p ≤ 32) :
    Writes (addr ++ '/' :: count) (.v4 a) p
  | v4Mask {addr count : List Char} {a mask : BitVec 32} {p : ℕ}
    (haddr : Address.parse addr = some (.v4 a)) (hcount : Address.parse count = some (.v4 mask))
    (hmask : IsMask mask p) : Writes (addr ++ '/' :: count) (.v4 a) p
  | v6 {addr count : List Char} {a : BitVec 128} {p : ℕ}
    (haddr : Address.parse addr = some (.v6 a)) (hcount : IsDecimal count p) (hp : p ≤ 128) :
    Writes (addr ++ '/' :: count) (.v6 a) p

lemma slash_mem_of_writes {s : List Char} {a : Address} {p : ℕ} (h : Writes s a p) : '/' ∈ s := by
  cases h <;> simp

lemma parse_eq_v4_iff {s : List Char} {a : BitVec 32} :
    Address.parse s = some (.v4 a) ↔ v4? s = some a := by
  unfold Address.parse
  cases v4? s with
  | none => simp
  | some b => simp

lemma isDigit_or_plus_of_isDecimal {s : List Char} {n : ℕ} (h : IsDecimal s n) :
    ∀ c ∈ s, c.isDigit = true ∨ c = '+' := by
  obtain ⟨ds, hs, -, hds, -⟩ := h
  intro c hc
  rcases hs with rfl | rfl
  · exact .inl (hds c hc)
  · rcases List.mem_cons.1 hc with rfl | hc
    · exact .inr rfl
    · exact .inl (hds c hc)

/-- A decimal number is no mask. -/
lemma v4?_of_isDecimal {s : List Char} {n : ℕ} (h : IsDecimal s n) : v4? s = none :=
  Option.eq_none_iff_forall_ne_some.2 fun _ hmask =>
    absurd (isDigit_or_plus_of_isDecimal h '.' (point_mem_of_v4? hmask)) (by decide)

lemma slash_not_mem_of_isDecimal {s : List Char} {n : ℕ} (h : IsDecimal s n) : '/' ∉ s :=
  fun hslash => absurd (isDigit_or_plus_of_isDecimal h '/' hslash) (by decide)

/-- What is read of a text with one slash. -/
lemma parse_append {addr count : List Char} (haddr : '/' ∉ addr) (hcount : '/' ∉ count) :
    Block.parse (addr ++ '/' :: count) =
      match Address.parse addr with
      | some (.v4 a) =>
        match v4? count with
        | some mask => (maskBits? mask).map (.v4 a)
        | none => (bits? count).bind fun n => if h : n < 33 then some (.v4 a ⟨n, h⟩) else none
      | some (.v6 a) =>
        (bits? count).bind fun n => if h : n < 129 then some (.v6 a ⟨n, h⟩) else none
      | none => none := by
  have hpieces : Text.splitChars (· == '/') (addr ++ '/' :: count) = [addr, count] :=
    Text.splitChars_eq_pair_iff.2 ⟨rfl, haddr, hcount⟩
  unfold Block.parse
  split
  · rename_i heq
    cases hpieces.symm.trans heq
    rfl
  · rename_i hne
    exact absurd hpieces (hne addr count)

lemma exists_parse_of_writes {s : List Char} {a : Address} {p : ℕ} (h : Writes s a p) :
    ∃ block, Block.parse s = some block ∧ block.base = a ∧ block.bits = p := by
  cases h with
  | @v4 addr count a p haddr hcount hp =>
    refine ⟨.v4 a ⟨p, by omega⟩, ?_, rfl, rfl⟩
    rw [parse_append (slash_not_mem_of_parse haddr) (slash_not_mem_of_isDecimal hcount), haddr,
      v4?_of_isDecimal hcount, bits?_eq_some_iff.2 hcount]
    exact dif_pos (by omega)
  | @v4Mask addr count a mask p haddr hcount hmask =>
    have hlt : p < 33 := Nat.lt_succ_of_le hmask.1
    refine ⟨.v4 a ⟨p, hlt⟩, ?_, rfl, rfl⟩
    rw [parse_append (slash_not_mem_of_parse haddr) (slash_not_mem_of_parse hcount), haddr,
      parse_eq_v4_iff.1 hcount]
    have hbits : maskBits? mask = some ⟨p, hlt⟩ := maskBits?_eq_some_iff.2 hmask
    exact congrArg (Option.map (Block.v4 a)) hbits
  | @v6 addr count a p haddr hcount hp =>
    refine ⟨.v6 a ⟨p, by omega⟩, ?_, rfl, rfl⟩
    rw [parse_append (slash_not_mem_of_parse haddr) (slash_not_mem_of_isDecimal hcount), haddr,
      bits?_eq_some_iff.2 hcount]
    exact dif_pos (by omega)

lemma writes_of_parse {s : List Char} {block : Block} (h : Block.parse s = some block) :
    Writes s block.base block.bits := by
  unfold Block.parse at h
  split at h
  · rename_i addr count hpieces
    obtain ⟨rfl, -, -⟩ := Text.splitChars_eq_pair_iff.1 hpieces
    split at h
    · rename_i a haddr
      split at h
      · rename_i mask hmask
        obtain ⟨p, hp, rfl⟩ := Option.map_eq_some_iff.1 h
        exact .v4Mask haddr (parse_eq_v4_iff.2 hmask) (maskBits?_eq_some_iff.1 hp)
      · obtain ⟨n, hn, h⟩ := Option.bind_eq_some_iff.1 h
        split at h
        · cases h
          rename_i hlt
          exact .v4 haddr (bits?_eq_some_iff.1 hn) (Nat.le_of_lt_succ hlt)
        · cases h
    · rename_i a haddr
      obtain ⟨n, hn, h⟩ := Option.bind_eq_some_iff.1 h
      split at h
      · cases h
        rename_i hlt
        exact .v6 haddr (bits?_eq_some_iff.1 hn) (Nat.le_of_lt_succ hlt)
      · cases h
    · cases h
  · cases h

/-- **Exactly the texts of networks are read as networks.** -/
theorem writes_iff {s : List Char} {a : Address} {p : ℕ} :
    Writes s a p ↔ ∃ block, Block.parse s = some block ∧ block.base = a ∧ block.bits = p := by
  refine ⟨exists_parse_of_writes, ?_⟩
  rintro ⟨block, h, rfl, rfl⟩
  exact writes_of_parse h

end Attestation.Network
