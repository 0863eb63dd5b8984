import PathKeeper.Proofs.Json.Number
import PathKeeper.Proofs.Json.ReadBack
import PathKeeper.Proofs.Json.Record
import PathKeeper.Settings

/-!
# Reading settings

Settings that are read have a capacity of 64 bits, and all that have are read back from what is
written of them.
-/

namespace PathKeeper

set_option autoImplicit false

namespace Policy

theorem value_wireName (policy : Policy) : names.value policy.wireName = .ok policy := by
  cases policy <;> rfl

theorem readsBack_wireName (policy : Policy) :
    Json.ReadsBack (Json.readName names) (Json.quote policy.wireName) policy := by
  intro rest
  rw [Json.quote_append, Json.readName, Json.dropBlank_cons_of_not rfl]
  change (Json.readText _ >>= _) = _
  rw [Json.readText_escaped]
  change (names.value policy.wireName >>= _) = _
  rw [policy.value_wireName]
  rfl

end Policy

namespace Settings

/-! ## What is read -/

/-- A capacity that has been read has 64 bits. -/
def Draft.IsSmall (draft : Draft) : Prop :=
  ∀ capacity ∈ draft.eventCapacity, capacity < Json.significandLimit

theorem keeps_policyField : policyField.Keeps Draft.IsSmall := by
  intro draft s draft' rest hsmall h
  obtain ⟨⟨policy, s⟩, -, h⟩ := Json.exists_of_bind_eq_ok h
  cases h
  exact hsmall

theorem keeps_capacityField : capacityField.Keeps Draft.IsSmall := by
  intro draft s draft' rest hsmall h
  obtain ⟨⟨capacity, s⟩, hread, h⟩ := Json.exists_of_bind_eq_ok h
  cases h
  intro other hother
  obtain rfl := Option.some.inj hother
  exact Json.lt_of_readUnsigned hread

theorem eventCapacity_lt_of_read {s rest : List Char} {settings : Settings}
    (h : read s = .ok (settings, rest)) : settings.eventCapacity < Json.significandLimit := by
  obtain ⟨⟨draft, s⟩, hrecord, h⟩ := Json.exists_of_bind_eq_ok h
  have hfields : ∀ field ∈ fields, field.Keeps Draft.IsSmall := by
    intro field hfield
    simp only [fields, List.mem_cons, List.not_mem_nil, or_false] at hfield
    rcases hfield with rfl | rfl
    · exact keeps_policyField
    · exact keeps_capacityField
  have hempty : Draft.IsSmall ⟨none, none⟩ := fun capacity hcapacity => by cases hcapacity
  have hsmall := Json.readRecord_keeps hfields hempty hrecord
  cases h
  obtain ⟨policy, capacity⟩ := draft
  cases capacity with
  | none =>
    change default.eventCapacity < Json.significandLimit
    decide
  | some capacity => exact hsmall capacity rfl

/-! ## What is read back -/

theorem endsNumber_brace (rest : List Char) : Json.EndsNumber ('\x7d' :: rest) := by
  intro c hc
  obtain rfl := Option.some.inj hc
  decide

theorem readsBack_write {settings : Settings}
    (hsmall : settings.eventCapacity < Json.significandLimit) :
    Json.ReadsBack read settings.write settings := by
  obtain ⟨policy, capacity⟩ := settings
  intro rest
  have hpolicy : fields.find? (·.name == policyField.name) = some policyField := rfl
  have hcapacity : fields.find? (·.name == capacityField.name) = some capacityField := rfl
  have hfirst : Json.ReadsBack (policyField.read ⟨none, none⟩) (Json.quote policy.wireName)
      ⟨some policy, none⟩ := by
    intro rest
    simp only [policyField, policy.readsBack_wireName rest, bind, Except.bind]
  have hsecond : capacityField.read ⟨some policy, none⟩ (Json.natural capacity ++ '\x7d' :: rest) =
      .ok (⟨some policy, some capacity⟩, '\x7d' :: rest) := by
    have hread := Json.readUnsigned_natural hsmall (endsNumber_brace rest)
    simp only [capacityField, hread, bind, Except.bind]
  have hrecord : Json.readRecord "CoordinatorConfig" fields ⟨none, none⟩
      ((Settings.mk policy capacity).write ++ rest) = .ok (⟨some policy, some capacity⟩, rest) :=
    Json.readRecord_pair hpolicy hcapacity rfl rfl hfirst hsecond rfl _
  simp only [read, hrecord, bind, Except.bind]
  rfl

end Settings

end PathKeeper
