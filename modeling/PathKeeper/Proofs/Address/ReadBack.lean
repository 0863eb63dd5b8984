import PathKeeper.Proofs.Address.Grammar

/-!
# Reading back addresses

Every address is read back from its canonical text, since that is a text of it. Where the text has a
gap, the groups on its two sides leave room for just the zeros that were left out.
-/

namespace PathKeeper

set_option autoImplicit false

open Text

/-! ## Groups -/

theorem isGroup_printGroup (g : UInt16) : IsGroup (printGroup g) g := by
  have hless : g.toNat < 65536 := g.toNat_lt
  refine ⟨Nat.toDigits_ne_nil, ?_, spelled?_toDigits (by decide) hexDigit?_digitChar g.toNat⟩
  exact (Nat.length_toDigits_le_iff (by decide) (by decide)).mpr (by omega)

theorem groups_printGroups (dotted : Bool) (g : UInt16) (rest : List UInt16) :
    Groups dotted (printGroups (g :: rest)) (g :: rest) := by
  induction rest generalizing g with
  | nil => exact .one (isGroup_printGroup g)
  | cons other rest ih =>
    have hcons := Groups.cons (isGroup_printGroup g) (ih other)
    rw [printGroups, List.map_cons, List.map_cons, joined_cons_cons, List.append_assoc]
    exact hcons

theorem side_printGroups (dotted : Bool) (gs : List UInt16) :
    Side dotted (printGroups gs) gs := by
  cases gs with
  | nil => exact .empty
  | cons g rest => exact .groups (groups_printGroups dotted g rest)

/-! ## Version 6 -/

theorem runs_fit : ∀ run ∈ runs, 2 ≤ run.2 ∧ run.1 + run.2 ≤ 8 := by decide

/-- The groups of a run of zeros may be left out. -/
theorem fill_zeroRun {gs : List UInt16} (hlength : gs.length = 8) {start length : Nat}
    (h : zeroRun gs = some (start, length)) :
    2 ≤ length ∧ start + length ≤ 8 ∧
      gs.take start ++ List.replicate length 0 ++ gs.drop (start + length) = gs := by
  obtain ⟨hleast, hmost⟩ := runs_fit _ (List.mem_of_find?_eq_some h)
  have hzero : isZeroRun gs (start, length) = true := List.find?_some h
  refine ⟨hleast, hmost, ?_⟩
  have hrun : (gs.drop start).take length = List.replicate length 0 := by
    apply List.eq_replicate_iff.mpr
    constructor
    · simp only [List.length_take, List.length_drop, hlength]
      omega
    · intro g hg
      simpa using List.all_eq_true.mp hzero g hg
  calc gs.take start ++ List.replicate length 0 ++ gs.drop (start + length)
      = gs.take start ++ ((gs.drop start).take length ++ (gs.drop start).drop length) := by
        rw [hrun, List.drop_drop, List.append_assoc]
    _ = gs := by rw [List.take_append_drop, List.take_append_drop]

theorem pair_ofNat (g : UInt16) :
    V4.pair (UInt8.ofNat (g.toNat / 256)) (UInt8.ofNat g.toNat) = g := by
  have hless : g.toNat < 65536 := g.toNat_lt
  apply UInt16.toNat_inj.mp
  rw [V4.pair_toNat, UInt8.toNat_ofNat', UInt8.toNat_ofNat']
  omega

namespace V6

theorem groups_of_mapped? {x : V6} {y : V4} (h : x.mapped? = some y) :
    x.groups = [0, 0, 0, 0, 0, 0xFFFF] ++ y.groups := by
  unfold mapped? at h
  split at h
  · next high low hgroups =>
    cases h
    simp only [hgroups, V4.groups, V4.ofGroups, pair_ofNat]
    rfl
  · cases h

theorem spells_mapped {x : V6} {y : V4} (h : x.mapped? = some y) :
    Spells ([':', ':', 'f', 'f', 'f', 'f', ':'] ++ y.print) x := by
  have hgroup : IsGroup ['f', 'f', 'f', 'f'] 0xFFFF := ⟨by decide, by decide, by decide⟩
  have hback : Side true ("ffff".toList ++ ':' :: y.print) (0xFFFF :: y.groups) :=
    .groups (.cons hgroup (.tail rfl y))
  exact .gap .empty hback (by simp) (groups_of_mapped? h)

theorem spells_print (x : V6) : Spells x.print x := by
  unfold print
  split
  · next y hmapped => exact spells_mapped hmapped
  split
  · next hmapped start length hrun =>
    obtain ⟨hleast, hmost, hfill⟩ := fill_zeroRun x.length_groups hrun
    have hkept : (x.groups.take start).length + (x.groups.drop (start + length)).length =
        8 - length := by
      simp only [List.length_take, List.length_drop, x.length_groups]
      omega
    have hroom : 8 - (8 - length) = length := by omega
    have hgap := Spells.gap (x := x) (side_printGroups false (x.groups.take start))
      (side_printGroups true (x.groups.drop (start + length)))
    rw [hkept, hroom, hfill] at hgap
    rw [List.append_assoc]
    exact hgap (by omega) rfl
  · next hmapped hrun =>
    exact .whole ((side_printGroups true x.groups).groups_of_ne_nil x.groups_ne_nil)

end V6

namespace Address

theorem spells_print (x : Address) : Spells x.print x := by
  cases x with
  | v4 x => exact .v4 x
  | v6 x => exact .v6 x.spells_print

/-- Addresses are read back from their canonical text. -/
theorem read_print (x : Address) : Address.read x.print = some x :=
  read_eq_some_iff.mpr x.spells_print

end Address

end PathKeeper
