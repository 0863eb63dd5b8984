import PathKeeper.Json.Reader

/-!
# What records keep

If no field that is stored breaks a property of a record, the record that has been read has it,
whether it was written as an object or as a list.
-/

namespace PathKeeper.Json

set_option autoImplicit false

theorem exists_of_bind_eq_ok {ε α β : Type} {first : Except ε α} {next : α → Except ε β}
    {result : β} (h : (first >>= next) = .ok result) :
    ∃ x, first = .ok x ∧ next x = .ok result := by
  cases first with
  | error fault => cases h
  | ok x => exact ⟨x, rfl, h⟩

variable {σ : Type} {fields : List (Field σ)} {good : σ → Prop}

/-- A field stores nothing that breaks the property. -/
def Field.Keeps (field : Field σ) (good : σ → Prop) : Prop :=
  ∀ record s record' rest, good record → field.read record s = .ok (record', rest) → good record'

theorem readMembers_keeps (hfields : ∀ field ∈ fields, field.Keeps good) {bound : Nat}
    {first : Bool} {record record' : σ} {s rest : List Char} (hgood : good record)
    (h : readMembers fields bound first record s = .ok (record', rest)) : good record' := by
  induction bound generalizing first record s with
  | zero => cases h
  | succ bound ih =>
    rw [readMembers] at h
    obtain ⟨place, -, h⟩ := exists_of_bind_eq_ok h
    cases place with
    | inr behind =>
      cases h
      exact hgood
    | inl s =>
      obtain ⟨⟨key, s⟩, -, h⟩ := exists_of_bind_eq_ok h
      simp only at h
      split at h
      · obtain ⟨s, -, h⟩ := exists_of_bind_eq_ok h
        obtain ⟨s, -, h⟩ := exists_of_bind_eq_ok h
        exact ih hgood h
      · next field hfind =>
        split at h
        · cases h
        · obtain ⟨s, -, h⟩ := exists_of_bind_eq_ok h
          obtain ⟨⟨stored, s⟩, hread, h⟩ := exists_of_bind_eq_ok h
          have hstored := hfields field (List.mem_of_find?_eq_some hfind) _ _ _ _ hgood hread
          exact ih hstored h

theorem readPositions_keeps {expected : Expected} (hfields : ∀ field ∈ fields, field.Keeps good)
    {i : Nat} {record record' : σ} {s rest : List Char} (hgood : good record)
    (h : readPositions expected fields i record s = .ok (record', rest)) : good record' := by
  induction fields generalizing i record s with
  | nil =>
    cases h
    exact hgood
  | cons field fields ih =>
    have hothers : ∀ other ∈ fields, other.Keeps good :=
      fun other hother => hfields other (List.mem_cons_of_mem field hother)
    rw [readPositions] at h
    obtain ⟨place, -, h⟩ := exists_of_bind_eq_ok h
    cases place with
    | none =>
      simp only at h
      split at h
      · cases h
      · exact ih hothers hgood h
    | some s =>
      obtain ⟨⟨stored, s⟩, hread, h⟩ := exists_of_bind_eq_ok h
      exact ih hothers (hfields field List.mem_cons_self _ _ _ _ hgood hread) h

theorem readRecord_keeps {name : String} {empty record : σ}
    (hfields : ∀ field ∈ fields, field.Keeps good) (hempty : good empty) {s rest : List Char}
    (h : readRecord name fields empty s = .ok (record, rest)) : good record := by
  unfold readRecord at h
  split at h
  · cases h
  · split at h
    · obtain ⟨⟨stored, s⟩, hpositions, h⟩ := exists_of_bind_eq_ok h
      obtain ⟨s, -, h⟩ := exists_of_bind_eq_ok h
      cases h
      exact readPositions_keeps hfields hempty hpositions
    · split at h
      · obtain ⟨⟨stored, s⟩, hmembers, h⟩ := exists_of_bind_eq_ok h
        simp only at h
        split at h
        · cases h
        · cases h
          exact readMembers_keeps hfields hempty hmembers
      · cases h

end PathKeeper.Json
