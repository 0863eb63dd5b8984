import PathKeeper.Proofs.Coordinator.Run
import PathKeeper.Proofs.Settings

/-!
# Building a coordinator

Settings are validated in front of the channel, so that no channel is asked to hold nothing. Nothing
is in front of it that knows how large a channel can be.
-/

namespace PathKeeper.Coordinator

set_option autoImplicit false

variable {σ : Type}

theorem validate_of_ne_zero {settings : Settings} (h : settings.eventCapacity ≠ 0) :
    settings.validate = .ok () := if_neg h

theorem ne_zero_of_validate {settings : Settings} (h : settings.validate = .ok ()) :
    settings.eventCapacity ≠ 0 := by
  intro hzero
  rw [Settings.validate, if_pos hzero] at h
  cases h

theorem validate_of_eq_zero {settings : Settings} (h : settings.eventCapacity = 0) :
    settings.validate = .error (.settings "event_channel_capacity must be > 0") := if_pos h

theorem newOn_of_zero (make : Nat → Option Channel) {settings : Settings}
    (h : settings.eventCapacity = 0) :
    (newOn make settings : Except StartFault (Coordinator σ)) =
      .error (.refused (.settings "event_channel_capacity must be > 0")) := by
  rw [newOn, validate_of_eq_zero h]

section Making

variable {make : Nat → Option Channel} (hmake : MakesChannels make)
include hmake

theorem MakesChannels.make_eq {capacity : Nat} (hleast : capacity ≠ 0)
    (hmost : capacity ≤ largestCapacity) : make capacity = some (.new capacity) := by
  cases hmade : make capacity with
  | none =>
    rcases (hmake.panics_iff capacity).mp hmade with hzero | hlarge
    · exact absurd hzero hleast
    · exact absurd hmost (Nat.not_le.mpr hlarge)
  | some channel => rw [hmake.is_new hmade]

theorem newOn_of_fits {settings : Settings} (hleast : settings.eventCapacity ≠ 0)
    (hmost : settings.eventCapacity ≤ largestCapacity) :
    (newOn make settings : Except StartFault (Coordinator σ)) =
      .ok ⟨settings.policy, .new settings.eventCapacity, .initial, .free⟩ := by
  rw [newOn, validate_of_ne_zero hleast]
  simp only [hmake.make_eq hleast hmost]

theorem newOn_of_large {settings : Settings} (h : largestCapacity < settings.eventCapacity) :
    (newOn make settings : Except StartFault (Coordinator σ)) = .error .overflow := by
  have hnone : make settings.eventCapacity = none := (hmake.panics_iff _).mpr (.inr h)
  rw [newOn, validate_of_ne_zero (Nat.ne_zero_of_lt h)]
  simp only [hnone]

theorem newOn_eq_new (settings : Settings) :
    (newOn make settings : Except StartFault (Coordinator σ)) = new settings := by
  by_cases hzero : settings.eventCapacity = 0
  · rw [newOn_of_zero make hzero, new, validate_of_eq_zero hzero]
  · by_cases hmost : settings.eventCapacity ≤ largestCapacity
    · rw [newOn_of_fits hmake hzero hmost]
      exact (new_of_capacity settings.policy (Nat.pos_of_ne_zero hzero) hmost).symm
    · rw [newOn_of_large hmake (Nat.not_le.mp hmost), new, validate_of_ne_zero hzero]
      exact (if_pos (Nat.not_le.mp hmost)).symm

/-- A coordinator is built of settings that are valid, and of others their failure is returned; but
if the capacity exceeds what a channel can have, the settings are valid and there is a panic.
Settings that are read have a capacity of 64 bits, and all that have are read from what is written
of them, so every such capacity comes about. -/
theorem building_panics_iff_capacity_is_large :
    (∀ settings : Settings,
      let built : Except StartFault (Coordinator σ) := newOn make settings
      built = new settings ∧
        (∀ failure, settings.validate = .error failure →
          built = .error (.refused failure) ∧ ∃ text, failure = .settings text) ∧
        (settings.validate = .ok () → settings.eventCapacity ≤ 2305843009213693951 →
          built = .ok ⟨settings.policy, .new settings.eventCapacity, .initial, .free⟩) ∧
        (built = .error .overflow ↔
          settings.validate = .ok () ∧ 2305843009213693951 < settings.eventCapacity)) ∧
      (∀ text settings, Json.readWhole Settings.read text = .ok settings →
        settings.eventCapacity < 2 ^ 64) ∧
      ∀ settings, settings.eventCapacity < 2 ^ 64 →
        Json.readWhole Settings.read settings.write = .ok settings := by
  refine ⟨fun settings => ?_, ?_, fun settings h => (Settings.readsBack_write h).readWhole⟩
  · intro built
    refine ⟨newOn_eq_new hmake settings, ?_, ?_, ?_, ?_⟩
    · intro failure hinvalid
      have hzero : settings.eventCapacity = 0 := by
        by_contra hne
        rw [validate_of_ne_zero hne] at hinvalid
        cases hinvalid
      rw [validate_of_eq_zero hzero] at hinvalid
      cases hinvalid
      exact ⟨newOn_of_zero make hzero, _, rfl⟩
    · intro hvalid hmost
      exact newOn_of_fits hmake (ne_zero_of_validate hvalid) hmost
    · intro hoverflow
      have hzero : settings.eventCapacity ≠ 0 := by
        intro hzero
        have hbuilt : built = _ := newOn_of_zero make hzero
        rw [hoverflow] at hbuilt
        cases hbuilt
      refine ⟨validate_of_ne_zero hzero, Nat.not_le.mp fun hmost => ?_⟩
      have hbuilt : built = _ := newOn_of_fits hmake hzero hmost
      rw [hoverflow] at hbuilt
      cases hbuilt
    · rintro ⟨-, hlarge⟩
      exact newOn_of_large hmake hlarge
  · intro text settings h
    unfold Json.readWhole at h
    split at h
    · cases h
    · next hread =>
      split at h
      · cases h
        exact Settings.eventCapacity_lt_of_read hread
      · cases h

end Making

/-- The largest capacity that a channel can have, nothing, and one more than the largest. -/
theorem three_capacities_come_to_three_ends :
    let make : Nat → Option Channel := fun capacity =>
      if capacity = 0 ∨ largestCapacity < capacity then none else some (.new capacity)
    let built : Nat → Except StartFault (Coordinator String) :=
      fun capacity => newOn make ⟨.reject, capacity⟩
    MakesChannels make ∧
      built 2305843009213693951 = .ok ⟨.reject, .new 2305843009213693951, .initial, .free⟩ ∧
      built 0 = .error (.refused (.settings "event_channel_capacity must be > 0")) ∧
      built 2305843009213693952 = .error .overflow := by
  intro make built
  have hmake : MakesChannels make := by
    constructor
    · intro capacity
      simp only [make]
      split <;> simp [*]
    · intro capacity channel h
      simp only [make] at h
      split at h
      · cases h
      · exact (Option.some.inj h).symm
  obtain ⟨hbuilt, -, -⟩ := building_panics_iff_capacity_is_large (σ := String) hmake
  obtain ⟨-, -, hlargest, -⟩ := hbuilt ⟨.reject, 2305843009213693951⟩
  obtain ⟨-, hnothing, -, -⟩ := hbuilt ⟨.reject, 0⟩
  obtain ⟨-, -, -, hlarger⟩ := hbuilt ⟨.reject, 2305843009213693952⟩
  refine ⟨hmake, hlargest rfl (Nat.le_refl _), (hnothing _ rfl).1, hlarger.mpr ⟨rfl, ?_⟩⟩
  decide

/-- Settings that are read and valid, and a panic all the same. -/
theorem valid_settings_can_overflow :
    let text := "\x7b\"event_channel_capacity\":2305843009213693952\x7d".toList
    let settings : Settings := ⟨.skip, 2305843009213693952⟩
    Json.readWhole Settings.read text = .ok settings ∧ settings.validate = .ok () ∧
      (new settings : Except StartFault (Coordinator String)) = .error .overflow := by
  intro text settings
  refine ⟨?_, rfl, rfl⟩
  decide +kernel

end PathKeeper.Coordinator
