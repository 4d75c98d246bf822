/-!
Maps from text keys as lists of pairs with strictly increasing keys.

Keys are ordered by code point, which is also the order of their UTF-8 bytes. Insertion puts
a value in its place and drops an older one, so building a map from pairs in any order keeps
the last value of each key.
-/

namespace Attestation.Keyed

variable {α : Type}

/-- Puts `v` under `k`, in place of the value that is there. -/
def insert (k : String) (v : α) : List (String × α) → List (String × α)
  | [] => [(k, v)]
  | (k', v') :: rest =>
    if k < k' then (k, v) :: (k', v') :: rest
    else if k' < k then (k', v') :: insert k v rest
    else (k, v) :: rest

def find? (k : String) : List (String × α) → Option α
  | [] => none
  | (k', v) :: rest => if k = k' then some v else find? k rest

def contains (k : String) (m : List (String × α)) : Bool := (find? k m).isSome

def erase (k : String) (m : List (String × α)) : List (String × α) :=
  m.filter fun entry => entry.1 ≠ k

def keys (m : List (String × α)) : List String := m.map Prod.fst

/-- The map that holds the last value given for each key. -/
def ofList (entries : List (String × α)) : List (String × α) :=
  entries.foldl (fun m entry => insert entry.1 entry.2 m) []

/-- Each key is below all that follow it. -/
def Increasing (m : List (String × α)) : Prop := (keys m).Pairwise (· < ·)

@[simp] theorem insert_nil (k : String) (v : α) : insert k v [] = [(k, v)] := rfl

@[simp] theorem find?_nil (k : String) : find? k ([] : List (String × α)) = none := rfl

@[simp] theorem increasing_nil : Increasing ([] : List (String × α)) := List.Pairwise.nil

theorem increasing_cons {k : String} {v : α} {m : List (String × α)} :
    Increasing ((k, v) :: m) ↔ (∀ k' ∈ keys m, k < k') ∧ Increasing m := by
  simp [Increasing, keys]

theorem mem_keys_insert {k k' : String} {v : α} {m : List (String × α)}
    (h : k' ∈ keys (insert k v m)) : k' = k ∨ k' ∈ keys m := by
  induction m with
  | nil => simpa [insert, keys] using h
  | cons entry rest ih =>
    obtain ⟨a, b⟩ := entry
    simp only [insert] at h
    split at h
    · simpa [keys] using h
    · split at h
      · simp only [keys, List.map_cons, List.mem_cons] at h ⊢
        rcases h with h | h
        · exact .inr (.inl h)
        · rcases ih h with h | h
          · exact .inl h
          · exact .inr (.inr h)
      · simp only [keys, List.map_cons, List.mem_cons] at h ⊢
        rcases h with h | h
        · exact .inl h
        · exact .inr (.inr h)

theorem increasing_insert {k : String} {v : α} {m : List (String × α)} (h : Increasing m) :
    Increasing (insert k v m) := by
  induction m with
  | nil => simp [Increasing, keys]
  | cons entry rest ih =>
    obtain ⟨a, b⟩ := entry
    obtain ⟨hlt, hrest⟩ := increasing_cons.1 h
    simp only [insert]
    split
    · rename_i hka
      refine increasing_cons.2 ⟨fun k' hk' => ?_, h⟩
      simp only [keys, List.map_cons, List.mem_cons] at hk'
      rcases hk' with rfl | hk'
      · exact hka
      · exact String.lt_trans hka (hlt k' hk')
    · split
      · rename_i hak
        refine increasing_cons.2 ⟨fun k' hk' => ?_, ih hrest⟩
        rcases mem_keys_insert hk' with rfl | hk'
        · exact hak
        · exact hlt k' hk'
      · rename_i hka hak
        have : k = a := String.le_antisymm (String.not_lt.1 hak) (String.not_lt.1 hka)
        subst this
        exact increasing_cons.2 ⟨hlt, hrest⟩

theorem mem_insert {k : String} {v : α} {e : String × α} {m : List (String × α)}
    (h : e ∈ insert k v m) : e = (k, v) ∨ e ∈ m := by
  induction m with
  | nil => simpa [insert] using h
  | cons entry rest ih =>
    obtain ⟨a, b⟩ := entry
    simp only [insert] at h
    split at h
    · simpa using h
    · split at h
      · rcases List.mem_cons.1 h with h | h
        · exact .inr (h ▸ List.mem_cons_self)
        · exact (ih h).imp id (List.mem_cons_of_mem _)
      · rcases List.mem_cons.1 h with h | h
        · exact .inl h
        · exact .inr (List.mem_cons_of_mem _ h)

theorem mem_ofList {e : String × α} {entries : List (String × α)} (h : e ∈ ofList entries) :
    e ∈ entries := by
  suffices H : ∀ m : List (String × α),
      e ∈ entries.foldl (fun m entry => insert entry.1 entry.2 m) m → e ∈ entries ∨ e ∈ m by
    simpa using H [] h
  clear h
  induction entries with
  | nil => exact fun m h => .inr h
  | cons entry rest ih =>
    intro m h
    rcases ih _ h with h | h
    · exact .inl (List.mem_cons_of_mem _ h)
    · rcases mem_insert h with h | h
      · exact .inl (h ▸ List.mem_cons_self)
      · exact .inr h

theorem increasing_ofList (entries : List (String × α)) : Increasing (ofList entries) := by
  suffices h : ∀ m : List (String × α), Increasing m →
      Increasing (entries.foldl (fun m entry => insert entry.1 entry.2 m) m) from
    h [] increasing_nil
  induction entries with
  | nil => exact fun m h => h
  | cons entry rest ih => exact fun m h => ih _ (increasing_insert h)

end Attestation.Keyed
