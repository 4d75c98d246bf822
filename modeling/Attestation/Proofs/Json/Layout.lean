import Attestation.Proofs.Json.Printer

/-!
The compact and the indented text of a value as two layouts of one text, which differ in the
white space between its tokens.
-/

namespace Attestation.Json

/-- White space in a text: before each item or member, and before the mark that closes its
container, by how deep they are; and after a colon. -/
structure Layout where
  line : ℕ → List Char
  colon : List Char
  isGap_of_mem_line : ∀ n, ∀ c ∈ line n, isGap c = true
  isGap_of_mem_colon : ∀ c ∈ colon, isGap c = true

namespace Layout

def compact : Layout where
  line _ := []
  colon := []
  isGap_of_mem_line _ _ h := absurd h List.not_mem_nil
  isGap_of_mem_colon _ h := absurd h List.not_mem_nil

def indented : Layout where
  line := newline
  colon := [' ']
  isGap_of_mem_line n c h := by
    rcases List.mem_cons.1 h with rfl | h
    · rfl
    · rw [List.eq_of_mem_replicate h]
      rfl
  isGap_of_mem_colon c h := by
    rw [List.mem_singleton.1 h]
    rfl

/-- Puts white space before the pieces and commas between them. -/
def join (l : Layout) (n : ℕ) : List (List Char) → List Char
  | [] => []
  | [p] => l.line n ++ p
  | p :: q :: rest => l.line n ++ p ++ ',' :: l.join n (q :: rest)

lemma join_compact (n : ℕ) (ps : List (List Char)) : compact.join n ps = commaSep ps := by
  induction ps with
  | nil => rfl
  | cons p ps ih =>
    cases ps with
    | nil => rfl
    | cons q ps =>
      rw [join, ih, commaSep]
      rfl

lemma join_indented (n : ℕ) (ps : List (List Char)) : indented.join n ps = lines n ps := by
  induction ps with
  | nil => rfl
  | cons p ps ih =>
    cases ps with
    | nil => rfl
    | cons q ps =>
      rw [join, ih, lines]
      rfl

end Layout

mutual

/-- The text of a value `n` levels deep. -/
def laid (l : Layout) (n : ℕ) : Json → List Char
  | .array [] => ['[', ']']
  | .object [] => ['\x7b', '\x7d']
  | .array (v :: rest) =>
    '[' :: l.join (n + 1) (laidItems l (n + 1) (v :: rest)) ++ l.line n ++ [']']
  | .object (m :: rest) =>
    '\x7b' :: l.join (n + 1) (laidMembers l (n + 1) (m :: rest)) ++ l.line n ++ ['\x7d']
  | .null => ['n', 'u', 'l', 'l']
  | .bool b => boolChars b
  | .number n => n.chars
  | .string s => quote s

def laidItems (l : Layout) (n : ℕ) : List Json → List (List Char)
  | [] => []
  | v :: rest => laid l n v :: laidItems l n rest

def laidMembers (l : Layout) (n : ℕ) : List (String × Json) → List (List Char)
  | [] => []
  | (k, v) :: rest => (quote k ++ ':' :: l.colon ++ laid l n v) :: laidMembers l n rest

end

/-! ### Both printers -/

lemma laidItems_eq (l : Layout) (n : ℕ) (items : List Json) :
    laidItems l n items = items.map (laid l n) := by
  induction items with
  | nil => rfl
  | cons v rest ih => rw [laidItems, ih, List.map_cons]

lemma laidMembers_eq (l : Layout) (n : ℕ) (members : List (String × Json)) :
    laidMembers l n members = members.map fun m => quote m.1 ++ ':' :: l.colon ++ laid l n m.2 := by
  induction members with
  | nil => rfl
  | cons m rest ih =>
    obtain ⟨k, v⟩ := m
    rw [laidMembers, ih, List.map_cons]

lemma indentedItems_eq (n : ℕ) (items : List Json) :
    indentedItems n items = items.map (indented n) := by
  induction items with
  | nil => rfl
  | cons v rest ih => rw [indentedItems, ih, List.map_cons]

lemma indentedMembers_eq (n : ℕ) (members : List (String × Json)) : indentedMembers n members =
    members.map fun m => quote m.1 ++ ':' :: ' ' :: indented n m.2 := by
  induction members with
  | nil => rfl
  | cons m rest ih =>
    obtain ⟨k, v⟩ := m
    rw [indentedMembers, ih, List.map_cons]

/-- **The compact text is laid out without white space.** -/
theorem laid_compact (n : ℕ) (v : Json) : laid .compact n v = v.chars := by
  induction v using induction generalizing n with
  | array items ih =>
    cases items with
    | nil => rfl
    | cons v rest =>
      have hitems : laidItems .compact (n + 1) (v :: rest) = itemChars (v :: rest) := by
        rw [laidItems_eq, itemChars_eq]
        exact List.map_congr_left fun w hw => ih w hw (n + 1)
      rw [laid, hitems, Layout.join_compact, chars]
      exact congrArg ('[' :: · ++ [']']) (List.append_nil _)
  | object members ih =>
    cases members with
    | nil => rfl
    | cons m rest =>
      have hmembers : laidMembers .compact (n + 1) (m :: rest) = memberChars (m :: rest) := by
        rw [laidMembers_eq, memberChars_eq]
        refine List.map_congr_left fun w hw => ?_
        rw [ih w hw (n + 1)]
        simp [Layout.compact, memberText]
      rw [laid, hmembers, Layout.join_compact, chars]
      exact congrArg ('\x7b' :: · ++ ['\x7d']) (List.append_nil _)
  | null | bool | number | string => rfl

/-- **The indented text is laid out with a line for each item and member.** -/
theorem laid_indented (n : ℕ) (v : Json) : laid .indented n v = v.indented n := by
  induction v using induction generalizing n with
  | array items ih =>
    cases items with
    | nil => rfl
    | cons v rest =>
      have hitems : laidItems .indented (n + 1) (v :: rest) =
          indentedItems (n + 1) (v :: rest) := by
        rw [laidItems_eq, indentedItems_eq]
        exact List.map_congr_left fun w hw => ih w hw (n + 1)
      rw [laid, hitems, Layout.join_indented, indented]
      rfl
  | object members ih =>
    cases members with
    | nil => rfl
    | cons m rest =>
      have hmembers : laidMembers .indented (n + 1) (m :: rest) =
          indentedMembers (n + 1) (m :: rest) := by
        rw [laidMembers_eq, indentedMembers_eq]
        refine List.map_congr_left fun w hw => ?_
        rw [ih w hw (n + 1)]
        simp [Layout.indented]
      rw [laid, hmembers, Layout.join_indented, indented]
      rfl
  | null | bool | number | string => rfl

end Attestation.Json
