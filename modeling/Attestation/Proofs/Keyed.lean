import Attestation.Keyed
import Mathlib.Tactic.Lemma
import Mathlib.Tactic.SplitIfs

/-!
What a keyed map holds after an insertion or a removal, and that a map with increasing keys is
rebuilt by inserting its own entries.
-/

namespace Attestation.Keyed

variable {α : Type}

lemma find?_insert (k k' : String) (v : α) (m : List (String × α)) :
    find? k (insert k' v m) = if k = k' then some v else find? k m := by
  induction m with
  | nil => rfl
  | cons entry rest ih =>
    obtain ⟨a, b⟩ := entry
    rw [insert]
    split
    · rfl
    · split
      · rename_i hak
        rw [find?, ih, find?]
        by_cases hk : k = k'
        · subst hk
          have hne : k ≠ a := fun h => String.lt_irrefl a (h ▸ hak)
          simp [hne]
        · simp [hk]
      · rename_i hka hak
        have hka' : k' = a := String.le_antisymm (String.not_lt.1 hak) (String.not_lt.1 hka)
        subst hka'
        by_cases hk : k = k' <;> simp [find?, hk]

lemma find?_erase (k k' : String) (m : List (String × α)) :
    find? k (erase k' m) = if k = k' then none else find? k m := by
  induction m with
  | nil => simp [erase]
  | cons entry rest ih =>
    obtain ⟨a, b⟩ := entry
    by_cases ha : a = k'
    · rw [erase, List.filter_cons_of_neg (by simpa using ha), ← erase, ih, find?]
      by_cases hk : k = k' <;> simp [hk, ha]
    · rw [erase, List.filter_cons_of_pos (by simpa using ha), find?, ← erase, ih, find?]
      by_cases hk : k = a
      · subst hk
        simp [ha]
      · simp [hk]

lemma mem_keys_iff {k : String} {m : List (String × α)} :
    k ∈ keys m ↔ ∃ v, find? k m = some v := by
  induction m with
  | nil => simp [keys]
  | cons entry rest ih =>
    obtain ⟨a, b⟩ := entry
    rw [find?, keys, List.map_cons, List.mem_cons, ← keys, ih]
    by_cases hk : k = a <;> simp [hk]

lemma increasing_erase {k : String} {m : List (String × α)} (h : Increasing m) :
    Increasing (erase k m) :=
  h.sublist (List.filter_sublist.map Prod.fst)

lemma nodup_keys_of_increasing {m : List (String × α)} (h : Increasing m) : (keys m).Nodup :=
  h.imp String.ne_of_lt

lemma find?_eq_none_of_below {k : String} {m : List (String × α)} (h : ∀ k' ∈ keys m, k < k') :
    find? k m = none := by
  rw [Option.eq_none_iff_forall_ne_some]
  exact fun v hv => String.lt_irrefl k (h k (mem_keys_iff.2 ⟨v, hv⟩))

/-- The least key of a map is there, so no map that agrees with it has all its keys above. -/
lemma not_lt_of_find?_eq {j k : String} {v w : α} {m n : List (String × α)}
    (hn : Increasing ((k, w) :: n)) (h : find? j ((j, v) :: m) = find? j ((k, w) :: n)) :
    ¬ j < k := by
  intro hjk
  have hbelow : ∀ k' ∈ keys ((k, w) :: n), j < k' := List.forall_mem_cons.2
    ⟨hjk, fun k' hk' => String.lt_trans hjk ((increasing_cons.1 hn).1 k' hk')⟩
  rw [find?_eq_none_of_below hbelow, find?, if_pos rfl] at h
  cases h

/-- Maps with increasing keys that hold the same under every key are equal. -/
theorem eq_of_find?_eq {m n : List (String × α)} (hm : Increasing m) (hn : Increasing n)
    (h : ∀ k, find? k m = find? k n) : m = n := by
  induction m generalizing n with
  | nil =>
    cases n with
    | nil => rfl
    | cons e n => simpa [find?] using h e.1
  | cons e m ih =>
    obtain ⟨j, v⟩ := e
    cases n with
    | nil => simpa [find?] using h j
    | cons e n =>
      obtain ⟨k, w⟩ := e
      obtain rfl : j = k := String.le_antisymm
        (String.not_lt.1 (not_lt_of_find?_eq hm (h k).symm))
        (String.not_lt.1 (not_lt_of_find?_eq hn (h j)))
      obtain ⟨hltm, hm⟩ := increasing_cons.1 hm
      obtain ⟨hltn, hn⟩ := increasing_cons.1 hn
      have hvw : v = w := by simpa [find?] using h j
      have hrest : m = n := ih hm hn fun i => by
        by_cases hij : i = j
        · rw [hij, find?_eq_none_of_below hltm, find?_eq_none_of_below hltn]
        · simpa [find?, hij] using h i
      rw [hvw, hrest]

/-- An entry above all others goes to the end. -/
lemma insert_of_above {k : String} {v : α} {m : List (String × α)} (h : ∀ k' ∈ keys m, k' < k) :
    insert k v m = m ++ [(k, v)] := by
  induction m with
  | nil => rfl
  | cons entry rest ih =>
    obtain ⟨a, b⟩ := entry
    have ha : a < k := h a (by simp [keys])
    have hrest : ∀ k' ∈ keys rest, k' < k := fun k' hk' => h k' (by
      simp only [keys, List.map_cons, List.mem_cons] at hk' ⊢
      exact .inr hk')
    rw [insert, if_neg (String.lt_asymm ha), if_pos ha, ih hrest, List.cons_append]

/-- Inserting the entries of a map with increasing keys, one after the other, rebuilds it. -/
theorem ofList_of_increasing {m : List (String × α)} (h : Increasing m) : ofList m = m := by
  suffices H : ∀ done : List (String × α), Increasing (done ++ m) →
      m.foldl (fun m entry => insert entry.1 entry.2 m) done = done ++ m from H [] h
  clear h
  induction m with
  | nil => simp
  | cons entry rest ih =>
    intro done h
    have habove : ∀ k' ∈ keys done, k' < entry.1 := by
      intro k' hk'
      rw [Increasing, keys, List.map_append] at h
      exact (List.pairwise_append.1 h).2.2 k' hk' entry.1 (by simp)
    rw [List.foldl_cons, insert_of_above habove, ih _ (by simpa using h)]
    simp

/-- A new key adds an entry. -/
lemma insert_perm {k : String} {v : α} {m : List (String × α)} (h : k ∉ keys m) :
    (insert k v m).Perm ((k, v) :: m) := by
  induction m with
  | nil => rfl
  | cons entry rest ih =>
    obtain ⟨a, b⟩ := entry
    obtain ⟨hka, hrest⟩ : k ≠ a ∧ k ∉ keys rest := by simpa [keys, not_or] using h
    rw [insert]
    split_ifs with h1 h2
    · rfl
    · exact ((ih hrest).cons _).trans (.swap _ _ _)
    · exact absurd (String.le_antisymm (String.not_lt.1 h2) (String.not_lt.1 h1)) hka

/-- A map is made of the entries that it is built from, if no key comes twice. -/
theorem ofList_perm {entries : List (String × α)} (h : (keys entries).Nodup) :
    (ofList entries).Perm entries := by
  suffices H : ∀ m : List (String × α), (keys (m ++ entries)).Nodup →
      (entries.foldl (fun m entry => insert entry.1 entry.2 m) m).Perm (m ++ entries) from H [] h
  clear h
  induction entries with
  | nil => exact fun m _ => by simp
  | cons entry rest ih =>
    intro m h
    have hmiddle : (m ++ entry :: rest).Perm (entry :: m ++ rest) := List.perm_middle
    have hnodup : (keys (entry :: m ++ rest)).Nodup := (hmiddle.map Prod.fst).nodup_iff.1 h
    have hnew : entry.1 ∉ keys m := by
      rw [keys, List.cons_append, List.map_cons, List.map_append] at hnodup
      exact fun hmem => (List.nodup_cons.1 hnodup).1 (List.mem_append_left _ hmem)
    have hinsert : (insert entry.1 entry.2 m ++ rest).Perm (entry :: m ++ rest) :=
      (insert_perm hnew).append_right rest
    have hall := hinsert.trans hmiddle.symm
    rw [List.foldl_cons]
    exact (ih _ ((hall.map Prod.fst).nodup_iff.2 h)).trans hall

/-! ### Maps of keys and of values -/

section Maps

variable {β : Type}

/-- It makes no difference whether the entries are changed before or after the map is built, as
long as they are inserted alike. -/
lemma ofList_map {g : String × α → String × β}
    (hg : ∀ e m, insert (g e).1 (g e).2 (m.map g) = (insert e.1 e.2 m).map g)
    (entries : List (String × α)) : ofList (entries.map g) = (ofList entries).map g := by
  suffices H : ∀ m : List (String × α),
      (entries.map g).foldl (fun m entry => insert entry.1 entry.2 m) (m.map g) =
        (entries.foldl (fun m entry => insert entry.1 entry.2 m) m).map g from H []
  induction entries with
  | nil => exact fun _ => rfl
  | cons entry rest ih =>
    intro m
    rw [List.foldl_cons, ← ih, ← hg]
    rfl

/-- Applies `f` to every key. -/
def mapKeys (f : String → String) (m : List (String × α)) : List (String × α) :=
  m.map fun e => (f e.1, e.2)

lemma insert_mapKeys {f : String → String} (hf : ∀ a b, f a < f b ↔ a < b) (k : String) (v : α)
    (m : List (String × α)) : insert (f k) v (mapKeys f m) = mapKeys f (insert k v m) := by
  induction m with
  | nil => rfl
  | cons entry rest ih =>
    have hcons : mapKeys f (entry :: rest) = (f entry.1, entry.2) :: mapKeys f rest := rfl
    rw [hcons, insert, insert, ih]
    simp only [hf]
    split_ifs <;> rfl

lemma ofList_mapKeys {f : String → String} (hf : ∀ a b, f a < f b ↔ a < b)
    (entries : List (String × α)) : ofList (mapKeys f entries) = mapKeys f (ofList entries) :=
  ofList_map (fun e m => insert_mapKeys hf e.1 e.2 m) entries

variable (f : α → β)

/-- Applies `f` to every value. -/
def mapValues (m : List (String × α)) : List (String × β) := m.map fun e => (e.1, f e.2)

lemma mapValues_cons (e : String × α) (m : List (String × α)) :
    mapValues f (e :: m) = (e.1, f e.2) :: mapValues f m := rfl

lemma insert_mapValues (k : String) (v : α) (m : List (String × α)) :
    insert k (f v) (mapValues f m) = mapValues f (insert k v m) := by
  induction m with
  | nil => rfl
  | cons entry rest ih =>
    rw [insert, mapValues_cons, insert, ih]
    split_ifs <;> rfl

lemma ofList_mapValues (entries : List (String × α)) :
    ofList (mapValues f entries) = mapValues f (ofList entries) :=
  ofList_map (fun e m => insert_mapValues f e.1 e.2 m) entries

end Maps

end Attestation.Keyed
