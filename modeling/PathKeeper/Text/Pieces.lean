/-!
# Separated texts

Joining texts with a separator between them and cutting a text at every separator.
-/

namespace PathKeeper.Text

set_option autoImplicit false

def joined (sep : List Char) : List (List Char) → List Char
  | [] => []
  | [piece] => piece
  | piece :: pieces => piece ++ sep ++ joined sep pieces

/-- The pieces between the separators; one more than there are separators. -/
def pieces (sep : Char) : List Char → List (List Char)
  | [] => [[]]
  | c :: s =>
    if c = sep then [] :: pieces sep s
    else
      match pieces sep s with
      | [] => [[c]]
      | piece :: rest => (c :: piece) :: rest

@[simp] theorem joined_nil (sep : List Char) : joined sep [] = [] := rfl

@[simp] theorem joined_singleton (sep piece : List Char) : joined sep [piece] = piece := rfl

theorem joined_cons_cons (sep a b : List Char) (rest : List (List Char)) :
    joined sep (a :: b :: rest) = a ++ sep ++ joined sep (b :: rest) := rfl

/-- Joining adds nothing but separators. -/
theorem mem_joined {sep : List Char} {parts : List (List Char)} {c : Char}
    (h : c ∈ joined sep parts) : c ∈ sep ∨ ∃ part ∈ parts, c ∈ part := by
  fun_induction joined sep parts with
  | case1 => cases h
  | case2 piece => exact .inr ⟨piece, List.mem_cons_self, h⟩
  | case3 piece rest hne ih =>
    rcases List.mem_append.mp h with hfront | hrest
    · rcases List.mem_append.mp hfront with hpiece | hsep
      · exact .inr ⟨piece, List.mem_cons_self, hpiece⟩
      · exact .inl hsep
    · rcases ih hrest with hsep | ⟨part, hpart, hmem⟩
      · exact .inl hsep
      · exact .inr ⟨part, List.mem_cons_of_mem piece hpart, hmem⟩

@[simp] theorem pieces_nil (sep : Char) : pieces sep [] = [[]] := rfl

theorem pieces_ne_nil (sep : Char) (s : List Char) : pieces sep s ≠ [] := by
  cases s with
  | nil => simp
  | cons c s =>
    unfold pieces
    split
    · simp
    · split <;> simp

/-- Joining undoes cutting. -/
theorem joined_pieces (sep : Char) (s : List Char) : joined [sep] (pieces sep s) = s := by
  induction s with
  | nil => rfl
  | cons c s ih =>
    obtain ⟨piece, rest, hcut⟩ := List.exists_cons_of_ne_nil (pieces_ne_nil sep s)
    rw [hcut] at ih
    unfold pieces
    split
    · next hc =>
      rw [hcut, joined_cons_cons, ih, hc]
      rfl
    · rw [hcut]
      cases rest with
      | nil => exact congrArg (c :: ·) ih
      | cons other rest => exact congrArg (c :: ·) ih

/-- A text without separators is its only piece. -/
theorem pieces_of_not_mem {sep : Char} {s : List Char} (h : sep ∉ s) : pieces sep s = [s] := by
  induction s with
  | nil => rfl
  | cons c s ih =>
    simp only [List.mem_cons, not_or] at h
    simp [pieces, Ne.symm h.1, ih h.2]

/-- A separator ends the piece before it. -/
theorem pieces_append_cons {sep : Char} {a : List Char} (h : sep ∉ a) (s : List Char) :
    pieces sep (a ++ sep :: s) = a :: pieces sep s := by
  induction a with
  | nil => simp [pieces]
  | cons c a ih =>
    simp only [List.mem_cons, not_or] at h
    simp [pieces, Ne.symm h.1, ih h.2]

/-- Cutting undoes joining if no piece holds the separator and there is a piece. -/
theorem pieces_joined {sep : Char} {parts : List (List Char)} (hne : parts ≠ [])
    (h : ∀ part ∈ parts, sep ∉ part) : pieces sep (joined [sep] parts) = parts := by
  induction parts with
  | nil => exact absurd rfl hne
  | cons a rest ih =>
    have ha : sep ∉ a := h a (by simp)
    cases rest with
    | nil => simp [pieces_of_not_mem ha]
    | cons b rest =>
      have hrest := ih (by simp) (fun part hp => h part (List.mem_cons_of_mem a hp))
      rw [joined_cons_cons, List.append_assoc, List.singleton_append, pieces_append_cons ha,
        hrest]

end PathKeeper.Text
