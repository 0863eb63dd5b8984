import PathKeeper.Network

/-!
# What normalizing a list comes to

Entry by entry: the addresses of the entries that have one, in order, unless the policy discards
lists with other entries and there is one. A change that is not discarded makes a snapshot.
-/

namespace PathKeeper

set_option autoImplicit false

namespace Resolver

/-- The address of an entry, if it has one. -/
def address? (raw : String) : Option Address := (parse raw).toOption

theorem parse_of_address? {raw : String} {address : Address} (h : address? raw = some address) :
    parse raw = .ok address := by
  unfold address? at h
  cases hp : parse raw with
  | ok parsed =>
    rw [hp] at h
    exact congrArg Except.ok (Option.some.inj h)
  | error fault => simp [hp, Except.toOption] at h

theorem parse_of_address?_eq_none {raw : String} (h : address? raw = none) :
    ∃ fault, parse raw = .error fault := by
  unfold address? at h
  cases hp : parse raw with
  | ok parsed => simp [hp, Except.toOption] at h
  | error fault => exact ⟨fault, rfl⟩

theorem normalize_skip (raws : List String) :
    normalize .skip raws = .ok (raws.filterMap address?) := by
  induction raws with
  | nil => rfl
  | cons raw rest ih =>
    cases ha : address? raw with
    | some address =>
      simp [normalize, parse_of_address? ha, ih, withServer, List.filterMap_cons_some ha]
    | none =>
      obtain ⟨fault, hfault⟩ := parse_of_address?_eq_none ha
      simp [normalize, hfault, ih, List.filterMap_cons_none ha]

theorem normalize_reject_of_all {raws : List String}
    (h : raws.all (fun raw => (address? raw).isSome) = true) :
    normalize .reject raws = .ok (raws.filterMap address?) := by
  induction raws with
  | nil => rfl
  | cons raw rest ih =>
    simp only [List.all_cons, Bool.and_eq_true] at h
    obtain ⟨address, ha⟩ := Option.isSome_iff_exists.mp h.1
    simp [normalize, parse_of_address? ha, ih h.2, withServer, List.filterMap_cons_some ha]

theorem normalize_reject_of_not_all {raws : List String}
    (h : raws.all (fun raw => (address? raw).isSome) = false) :
    ∃ fault, normalize .reject raws = .error fault := by
  induction raws with
  | nil => simp at h
  | cons raw rest ih =>
    cases ha : address? raw with
    | none =>
      obtain ⟨fault, hfault⟩ := parse_of_address?_eq_none ha
      exact ⟨fault, by simp [normalize, hfault]⟩
    | some address =>
      simp only [List.all_cons, ha, Option.isSome_some, Bool.true_and] at h
      obtain ⟨fault, hfault⟩ := ih h
      exact ⟨fault, by simp [normalize, parse_of_address? ha, hfault, withServer]⟩

/-- A list is discarded on account of its first entry without an address. -/
theorem first_fault_of_normalize_reject {raws : List String} {fault : Fault}
    (h : normalize .reject raws = .error fault) :
    ∃ front raw back, raws = front ++ raw :: back ∧
      (∀ entry ∈ front, ∃ address, parse entry = .ok address) ∧ parse raw = .error fault := by
  induction raws with
  | nil => cases h
  | cons raw rest ih =>
    unfold normalize at h
    cases hparse : parse raw with
    | ok address =>
      have hrest : normalize .reject rest = .error fault := by
        cases hrest : normalize .reject rest with
        | ok servers => simp [hparse, hrest, withServer] at h
        | error found => simpa [hparse, hrest, withServer] using h
      obtain ⟨front, bad, back, rfl, hfront, hbad⟩ := ih hrest
      exact ⟨raw :: front, bad, back, rfl,
        List.forall_mem_cons.mpr ⟨⟨address, hparse⟩, hfront⟩, hbad⟩
    | error found =>
      have hfound : found = fault := by simpa [hparse] using h
      exact ⟨[], raw, rest, rfl, by simp, by rw [hparse, hfound]⟩

theorem skipped_of_all {raws : List String}
    (h : raws.all (fun raw => (address? raw).isSome) = true) : skipped .skip raws = [] := by
  rw [skipped, List.filterMap_eq_nil_iff]
  intro raw hraw
  obtain ⟨address, ha⟩ := Option.isSome_iff_exists.mp (List.all_eq_true.mp h raw hraw)
  rw [parse_of_address? ha]

end Resolver

/-- Whether a change is not discarded: the policy skips entries, or every entry has an address. -/
def Policy.admits (policy : Policy) (change : Change) : Bool :=
  policy == .skip || change.resolvers.all fun raw => (Resolver.address? raw).isSome

namespace Change

/-- The snapshot that a change makes, if it is not discarded. -/
def snapshot? (policy : Policy) (change : Change) : Option Snapshot :=
  if policy.admits change then
    some ⟨change.identity, change.resolvers.filterMap Resolver.address?⟩
  else none

theorem normalize_of_snapshot? {policy : Policy} {change : Change} {snapshot : Snapshot}
    (h : change.snapshot? policy = some snapshot) :
    Resolver.normalize policy change.resolvers = .ok snapshot.servers ∧
      snapshot = ⟨change.identity, snapshot.servers⟩ := by
  unfold snapshot? at h
  split at h
  · next hadmits =>
    cases Option.some.inj h
    refine ⟨?_, rfl⟩
    cases policy with
    | skip => exact Resolver.normalize_skip change.resolvers
    | reject => exact Resolver.normalize_reject_of_all hadmits
  · cases h

theorem normalize_of_snapshot?_eq_none {policy : Policy} {change : Change}
    (h : change.snapshot? policy = none) :
    ∃ fault, Resolver.normalize policy change.resolvers = .error fault := by
  unfold snapshot? at h
  split at h
  · cases h
  · next hadmits =>
    cases policy with
    | skip => simp [Policy.admits] at hadmits
    | reject =>
      apply Resolver.normalize_reject_of_not_all
      simpa [Policy.admits] using hadmits

end Change

end PathKeeper
