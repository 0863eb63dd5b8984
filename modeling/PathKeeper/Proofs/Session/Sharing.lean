import PathKeeper.Proofs.Sessions

/-!
# Memories that are shared

Handles have one memory exactly if they go back, each made from another one, to the same fresh
handle. Every handle of a memory shows what any of them was told since any of them was cleared
last, and nothing of what other handles are told.
-/

namespace PathKeeper.Shelf

set_option autoImplicit false

/-! ## Where handles come from -/

/-- How a handle was made. -/
inductive Birth where
  | fresh
  | shared (parent : Nat)
  deriving DecidableEq, Repr

/-- The fresh handle that a handle goes back to, by the births of all handles, the latest one
first. -/
def origin : List Birth → Nat → Option Nat
  | [], _ => none
  | birth :: older, handle =>
    if handle = older.length then
      match birth with
      | .fresh => some handle
      | .shared parent => origin older parent
    else origin older handle

theorem origin_of_lt {older : List Birth} {handle : Nat} (h : handle < older.length)
    (birth : Birth) : origin (birth :: older) handle = origin older handle := if_neg h.ne

theorem origin_fresh (older : List Birth) :
    origin (.fresh :: older) older.length = some older.length := if_pos rfl

theorem origin_shared (older : List Birth) (parent : Nat) :
    origin (.shared parent :: older) older.length = origin older parent := if_pos rfl

theorem lt_of_origin {births : List Birth} {handle root : Nat}
    (h : origin births handle = some root) : root < births.length := by
  induction births generalizing handle with
  | nil => cases h
  | cons birth older ih =>
    unfold origin at h
    rw [List.length_cons]
    split at h
    · next hlatest =>
      cases birth with
      | fresh =>
        obtain rfl := Option.some.inj h
        omega
      | shared parent => exact (ih h).trans (Nat.lt_succ_self _)
    · exact (ih h).trans (Nat.lt_succ_self _)

/-- The births that the steps so far come to, if there was one fresh handle at first. The latest
step comes first. -/
def births : List (Step × Nat) → List Birth
  | [] => [.fresh]
  | (.command _, _) :: past => births past
  | (.clear, _) :: past => births past
  | (.share, handle) :: past => .shared (handle % (births past).length) :: births past
  | (.fresh, _) :: past => .fresh :: births past

theorem births_ne_nil (past : List (Step × Nat)) : births past ≠ [] := by
  fun_induction births past with
  | case1 => simp
  | case2 _ _ _ ih => exact ih
  | case3 _ _ ih => exact ih
  | case4 => simp
  | case5 => simp

theorem mod_lt_births (handle : Nat) (past : List (Step × Nat)) :
    handle % (births past).length < (births past).length :=
  Nat.mod_lt _ (List.length_pos_iff.mpr (births_ne_nil past))

/-- A handle that is there keeps its origin. -/
theorem origin_births_cons {past : List (Step × Nat)} {i : Nat} (h : i < (births past).length)
    (entry : Step × Nat) : origin (births (entry :: past)) i = origin (births past) i := by
  obtain ⟨step, handle⟩ := entry
  cases step with
  | command command => rfl
  | clear => rfl
  | share => exact origin_of_lt h _
  | fresh => exact origin_of_lt h _

/-! ## Handles of one origin -/

/-- The shelf that the steps so far come to, the latest step first. -/
def after : List (Step × Nat) → Shelf
  | [] => single
  | (step, handle) :: past => (after past).apply step handle

/-- The handles are those that were born, and they share memories by their origins. -/
structure IsOf (births : List Birth) (shelf : Shelf) : Prop where
  length_eq : shelf.handles.length = births.length
  lt_of_mem : ∀ group ∈ shelf.handles, group < shelf.memories.length
  has_origin : ∀ i < births.length, ∃ root, origin births i = some root
  same_iff : ∀ i < births.length, ∀ j < births.length,
    (shelf.handles[i]? = shelf.handles[j]? ↔ origin births i = origin births j)

namespace IsOf

variable {births : List Birth} {shelf : Shelf} (h : IsOf births shelf)

theorem single : IsOf [.fresh] Shelf.single where
  length_eq := rfl
  lt_of_mem := by simp [Shelf.single]
  has_origin i hi := ⟨0, by simp [origin, Nat.lt_one_iff.mp hi]⟩
  same_iff i hi j hj := by simp [Nat.lt_one_iff.mp hi, Nat.lt_one_iff.mp hj]

include h

theorem getElem?_handles (hne : births ≠ []) (handle : Nat) :
    shelf.handles[handle % births.length]? = some (shelf.group handle) := by
  have hlt : handle % births.length < shelf.handles.length := by
    rw [h.length_eq]
    exact Nat.mod_lt _ (List.length_pos_iff.mpr hne)
  rw [group, h.length_eq, List.getD_eq_getElem?_getD, List.getElem?_eq_getElem hlt,
    Option.getD_some]

theorem getElem?_of_lt {i : Nat} (hi : i < births.length) :
    shelf.handles[i]? = some (shelf.group i) := by
  have hhandle := h.getElem?_handles (List.ne_nil_of_length_pos (Nat.zero_lt_of_lt hi)) i
  rwa [Nat.mod_eq_of_lt hi] at hhandle

theorem with_memories {memories : List Memory}
    (hlength : memories.length = shelf.memories.length) :
    IsOf births { shelf with memories } where
  length_eq := h.length_eq
  lt_of_mem group hgroup := hlength ▸ h.lt_of_mem group hgroup
  has_origin := h.has_origin
  same_iff := h.same_iff

/-- Another handle on the memory of `parent`. -/
theorem share {parent group : Nat} (hparent : parent < births.length)
    (hgroup : shelf.handles[parent]? = some group) :
    IsOf (.shared parent :: births) { shelf with handles := shelf.handles ++ [group] } := by
  -- Every handle, the latest one too, has memory and origin of one that was there before.
  have hbefore : ∀ i < births.length + 1, ∃ k < births.length,
      (shelf.handles ++ [group])[i]? = shelf.handles[k]? ∧
        origin (.shared parent :: births) i = origin births k := by
    intro i hi
    rcases Nat.lt_succ_iff_lt_or_eq.mp hi with hlt | rfl
    · exact ⟨i, hlt, List.getElem?_append_left (h.length_eq ▸ hlt), origin_of_lt hlt _⟩
    · refine ⟨parent, hparent, ?_, origin_shared births parent⟩
      rw [hgroup, ← h.length_eq, List.getElem?_concat_length]
  constructor
  · simp [h.length_eq]
  · intro other hother
    rcases List.mem_append.mp hother with hold | hnew
    · exact h.lt_of_mem other hold
    · rw [List.mem_singleton.mp hnew]
      exact h.lt_of_mem group (List.mem_of_getElem? hgroup)
  · intro i hi
    obtain ⟨k, hk, -, horigin⟩ := hbefore i hi
    rw [horigin]
    exact h.has_origin k hk
  · intro i hi j hj
    obtain ⟨k, hk, hik, hi⟩ := hbefore i hi
    obtain ⟨l, hl, hjl, hj⟩ := hbefore j hj
    rw [hik, hjl, hi, hj]
    exact h.same_iff k hk l hl

/-- A handle on a memory of its own. -/
theorem fresh (memory : Memory) :
    IsOf (.fresh :: births)
      ⟨shelf.memories ++ [memory], shelf.handles ++ [shelf.memories.length]⟩ := by
  have hlatest : (shelf.handles ++ [shelf.memories.length])[births.length]? =
      some shelf.memories.length := by rw [← h.length_eq, List.getElem?_concat_length]
  have hbefore : ∀ i < births.length,
      (shelf.handles ++ [shelf.memories.length])[i]? = shelf.handles[i]? :=
    fun i hi => List.getElem?_append_left (h.length_eq ▸ hi)
  -- No handle that was there has the memory or the origin of the latest one.
  have hmemory : ∀ i < births.length, shelf.handles[i]? ≠ some shelf.memories.length :=
    fun i _ heq => (h.lt_of_mem _ (List.mem_of_getElem? heq)).false
  have horigin : ∀ i, origin births i ≠ some births.length :=
    fun i heq => (lt_of_origin heq).false
  constructor
  · simp [h.length_eq]
  · intro group hgroup
    rw [List.length_append, List.length_singleton]
    rcases List.mem_append.mp hgroup with hold | hnew
    · exact (h.lt_of_mem group hold).trans (Nat.lt_succ_self _)
    · rw [List.mem_singleton.mp hnew]
      exact Nat.lt_succ_self _
  · intro i hi
    rcases Nat.lt_succ_iff_lt_or_eq.mp hi with hlt | rfl
    · rw [origin_of_lt hlt]
      exact h.has_origin i hlt
    · exact ⟨_, origin_fresh births⟩
  · intro i hi j hj
    rcases Nat.lt_succ_iff_lt_or_eq.mp hi with hi | rfl <;>
      rcases Nat.lt_succ_iff_lt_or_eq.mp hj with hj | rfl
    · rw [hbefore i hi, hbefore j hj, origin_of_lt hi, origin_of_lt hj]
      exact h.same_iff i hi j hj
    · rw [hbefore i hi, hlatest, origin_of_lt hi, origin_fresh]
      exact iff_of_false (hmemory i hi) (horigin i)
    · rw [hlatest, hbefore j hj, origin_fresh, origin_of_lt hj]
      exact iff_of_false (hmemory j hj).symm (horigin j).symm
    · exact iff_of_true rfl rfl

end IsOf

theorem isOf_after (past : List (Step × Nat)) : IsOf (births past) (after past) := by
  induction past with
  | nil => exact .single
  | cons entry past ih =>
    obtain ⟨step, handle⟩ := entry
    cases step with
    | command command => exact ih.with_memories (List.length_modify _ _ _)
    | clear => exact ih.with_memories List.length_set
    | share =>
      exact ih.share (mod_lt_births handle past)
        (ih.getElem?_handles (births_ne_nil past) handle)
    | fresh => exact ih.fresh .empty

/-! ## What a family is told -/

def Step.command? : Step → Option Command
  | .command due => some due
  | _ => none

/-- The commands among some steps since the last one that clears. The latest step comes first, the
latest command last. -/
def sinceClear (steps : List Step) : List Command :=
  (steps.takeWhile (· ≠ .clear)).reverse.filterMap Step.command?

/-- What a step makes of a memory. -/
def Step.effect : Step → Memory → Memory
  | .command due => Memory.record due
  | .clear => fun _ => .empty
  | .share => id
  | .fresh => id

theorem ofCommands_sinceClear_cons (step : Step) (steps : List Step) :
    Memory.ofCommands (sinceClear (step :: steps)) =
      step.effect (.ofCommands (sinceClear steps)) := by
  cases step with
  | command due =>
    have hsince : sinceClear (.command due :: steps) = sinceClear steps ++ [due] := by
      simp [sinceClear, Step.command?]
    rw [hsince, Memory.ofCommands_append]
    rfl
  | clear => rfl
  | share => simp [sinceClear, Step.command?, Step.effect, List.filterMap_cons]
  | fresh => simp [sinceClear, Step.command?, Step.effect, List.filterMap_cons]

/-- The steps with the handles on which they are taken. -/
def landed : List (Step × Nat) → List (Step × Nat)
  | [] => []
  | (step, handle) :: past => (step, handle % (births past).length) :: landed past

theorem length_births_le_cons (entry : Step × Nat) (past : List (Step × Nat)) :
    (births past).length ≤ (births (entry :: past)).length := by
  obtain ⟨step, handle⟩ := entry
  cases step <;> simp [births]

theorem lt_of_mem_landed {past : List (Step × Nat)} {entry : Step × Nat}
    (h : entry ∈ landed past) : entry.2 < (births past).length := by
  induction past with
  | nil => cases h
  | cons latest past ih =>
    have hle := length_births_le_cons latest past
    rcases List.mem_cons.mp h with rfl | hbefore
    · exact (mod_lt_births latest.2 past).trans_le hle
    · exact (ih hbefore).trans_le hle

/-- The steps that are taken on handles of one origin. -/
def stepsOf (past : List (Step × Nat)) (root : Option Nat) : List Step :=
  ((landed past).filter fun entry => origin (births past) entry.2 = root).map Prod.fst

theorem stepsOf_cons (step : Step) (handle : Nat) (past : List (Step × Nat)) (root : Option Nat) :
    stepsOf ((step, handle) :: past) root =
      if origin (births past) (handle % (births past).length) = root then
        step :: stepsOf past root
      else stepsOf past root := by
  have hpast : (landed past).filter
      (fun entry => origin (births ((step, handle) :: past)) entry.2 = root) =
        (landed past).filter fun entry => origin (births past) entry.2 = root := by
    apply List.filter_congr
    intro entry hentry
    rw [origin_births_cons (lt_of_mem_landed hentry)]
  rw [stepsOf, landed, List.filter_cons, hpast, origin_births_cons (mod_lt_births handle past)]
  by_cases hroot : origin (births past) (handle % (births past).length) = root
  · simp [hroot, stepsOf]
  · simp [hroot, stepsOf]

/-- The commands that handles of one origin are given since one of them was cleared last. -/
def told (past : List (Step × Nat)) (root : Option Nat) : List Command :=
  sinceClear (stepsOf past root)

theorem ofCommands_told_cons (step : Step) (handle : Nat) (past : List (Step × Nat))
    (root : Option Nat) :
    Memory.ofCommands (told ((step, handle) :: past) root) =
      if origin (births past) (handle % (births past).length) = root then
        step.effect (.ofCommands (told past root))
      else .ofCommands (told past root) := by
  rw [told, stepsOf_cons]
  split
  · exact ofCommands_sinceClear_cons step _
  · rfl

/-- Nobody has told anything to a handle that is not there yet. -/
theorem told_of_unborn (past : List (Step × Nat)) : told past (some (births past).length) = [] := by
  have hnone : (landed past).filter
      (fun entry => origin (births past) entry.2 = some (births past).length) = [] := by
    rw [List.filter_eq_nil_iff]
    intro entry _ horigin
    exact (lt_of_origin (of_decide_eq_true horigin)).false
  rw [told, stepsOf, hnone]
  rfl

/-! ## What a handle shows -/

theorem getElem?_views (shelf : Shelf) (i : Nat) :
    shelf.views[i]? = shelf.handles[i]?.map fun group => shelf.memories.getD group .empty := by
  rw [views, List.getElem?_map]

section Shown

variable {births : List Birth} {shelf : Shelf} (h : IsOf births shelf)
include h

theorem getElem?_views_modify (f : Memory → Memory) {i j : Nat} (hi : i < births.length)
    (hj : j < births.length) :
    ({ shelf with memories := shelf.memories.modify (shelf.group j) f } : Shelf).views[i]? =
      if origin births j = origin births i then shelf.views[i]?.map f else shelf.views[i]? := by
  have hgroup : shelf.group i < shelf.memories.length :=
    h.lt_of_mem _ (List.mem_of_getElem? (h.getElem?_of_lt hi))
  have hsame : shelf.group j = shelf.group i ↔ origin births j = origin births i := by
    rw [← h.same_iff j hj i hi, h.getElem?_of_lt hi, h.getElem?_of_lt hj, Option.some.injEq]
  simp only [getElem?_views, h.getElem?_of_lt hi, Option.map_some, List.getD_eq_getElem?_getD,
    List.getElem?_modify, hsame, List.getElem?_eq_getElem hgroup]
  split <;> rfl

theorem getElem?_views_append (memories : List Memory) (group : Nat) {i : Nat}
    (hi : i < births.length) :
    (⟨shelf.memories ++ memories, shelf.handles ++ [group]⟩ : Shelf).views[i]? =
      shelf.views[i]? := by
  have hhandle : i < shelf.handles.length := h.length_eq ▸ hi
  have hgroup : shelf.handles[i] < shelf.memories.length := h.lt_of_mem _ (List.getElem_mem hhandle)
  simp only [getElem?_views, List.getElem?_append_left hhandle, List.getElem?_eq_getElem hhandle,
    Option.map_some, List.getD_eq_getElem?_getD, List.getElem?_append_left hgroup]

/-- A step has its effect on the handles that have the origin of its own handle, and on no other. -/
theorem getElem?_views_apply (step : Step) (handle : Nat) {i : Nat} (hi : i < births.length) :
    (shelf.apply step handle).views[i]? =
      if origin births (handle % births.length) = origin births i then
        shelf.views[i]?.map step.effect
      else shelf.views[i]? := by
  have hpos : 0 < births.length := Nat.zero_lt_of_lt hi
  have hgroup : shelf.group handle = shelf.group (handle % births.length) := by
    rw [group, group, h.length_eq, Nat.mod_mod]
  have hmodify (f : Memory → Memory) := getElem?_views_modify h f hi (Nat.mod_lt handle hpos)
  cases step with
  | command due =>
    rw [← hgroup] at hmodify
    exact hmodify _
  | clear =>
    rw [apply, List.set_eq_modify, hgroup]
    exact hmodify _
  | share =>
    have hsame := getElem?_views_append h [] (shelf.group handle) hi
    rw [List.append_nil] at hsame
    simpa [apply, Step.effect] using hsame
  | fresh =>
    have hsame := getElem?_views_append h [.empty] shelf.memories.length hi
    simpa [apply, Step.effect] using hsame

theorem IsOf.getElem?_views_share (handle : Nat) (hne : births ≠ []) :
    (shelf.apply .share handle).views[births.length]? =
      (shelf.apply .share handle).views[handle % births.length]? := by
  have hparent : handle % births.length < shelf.handles.length := by
    rw [h.length_eq]
    exact Nat.mod_lt _ (List.length_pos_iff.mpr hne)
  rw [apply, getElem?_views, getElem?_views, List.getElem?_append_left hparent,
    h.getElem?_handles hne, ← h.length_eq, List.getElem?_concat_length]

theorem IsOf.getElem?_views_fresh (handle : Nat) :
    (shelf.apply .fresh handle).views[births.length]? = some .empty := by
  rw [apply, getElem?_views, ← h.length_eq]
  simp

end Shown

/-- A handle shows what the handles of its origin were told. -/
theorem getElem?_views_after {past : List (Step × Nat)} {i : Nat} (hi : i < (births past).length) :
    (after past).views[i]? = some (.ofCommands (told past (origin (births past) i))) := by
  induction past generalizing i with
  | nil =>
    obtain rfl : i = 0 := Nat.lt_one_iff.mp hi
    rfl
  | cons entry past ih =>
    obtain ⟨step, handle⟩ := entry
    have hof := isOf_after past
    -- The handles that were there before, whatever the step.
    have hbefore : ∀ {i : Nat}, i < (births past).length →
        (after ((step, handle) :: past)).views[i]? = some
          (.ofCommands (told ((step, handle) :: past)
            (origin (births ((step, handle) :: past)) i))) := by
      intro i hi
      rw [after, getElem?_views_apply hof step handle hi, ih hi, origin_births_cons hi,
        ofCommands_told_cons]
      split <;> rfl
    cases step with
    | command due => exact hbefore hi
    | clear => exact hbefore hi
    | share =>
      rcases Nat.lt_succ_iff_lt_or_eq.mp hi with hlt | rfl
      · exact hbefore hlt
      · have hparent := mod_lt_births handle past
        have horigin : origin (births ((.share, handle) :: past)) (births past).length =
            origin (births ((.share, handle) :: past)) (handle % (births past).length) :=
          (origin_shared _ _).trans (origin_of_lt hparent _).symm
        rw [horigin, ← hbefore hparent, after]
        exact hof.getElem?_views_share handle (births_ne_nil past)
    | fresh =>
      rcases Nat.lt_succ_iff_lt_or_eq.mp hi with hlt | rfl
      · exact hbefore hlt
      · have hother : origin (births past) (handle % (births past).length) ≠
            some (births past).length := fun heq => (lt_of_origin heq).false
        have horigin : origin (births ((.fresh, handle) :: past)) (births past).length =
            some (births past).length := origin_fresh _
        rw [horigin, ofCommands_told_cons, if_neg hother, told_of_unborn, after]
        exact hof.getElem?_views_fresh handle

/-- After any steps two handles have one memory exactly if they go back to the same fresh handle.
Each handle shows what was told to the handles of its origin, before or after it was made, since one
of them was cleared last: the resolver lists and the statuses in order, the last one of either, and
how many times it was to reconnect. A step on a handle of another origin changes nothing of that. -/
theorem handles_share_memory_by_origin (past : List (Step × Nat)) :
    let shelf := after past
    let family := origin (births past)
    let count := (births past).length
    shelf.views.length = count ∧
      (∀ i < count, ∀ j < count,
        (shelf.group i = shelf.group j ↔ ∃ root, family i = some root ∧ family j = some root)) ∧
      (∀ i < count, ∃ memory, shelf.views[i]? = some memory ∧
        let commands := told past (family i)
        memory.updates = commands.filterMap Command.servers? ∧
          memory.servers? = (commands.filterMap Command.servers?).getLast? ∧
          memory.reconnects = commands.count .reconnect ∧
          memory.statuses = commands.filterMap Command.status? ∧
          memory.status = (commands.filterMap Command.status?).getLast?.getD .down) ∧
      ∀ step handle, ∀ i < count, family i ≠ family (handle % count) →
        (shelf.apply step handle).views[i]? = shelf.views[i]? := by
  intro shelf family count
  have hof : IsOf (births past) shelf := isOf_after past
  refine ⟨?_, ?_, ?_, ?_⟩
  · rw [views, List.length_map, hof.length_eq]
  · intro i hi j hj
    have hsame := hof.same_iff i hi j hj
    rw [hof.getElem?_of_lt hi, hof.getElem?_of_lt hj, Option.some.injEq] at hsame
    obtain ⟨root, hroot⟩ := hof.has_origin i hi
    rw [hsame]
    constructor
    · intro heq
      exact ⟨root, hroot, heq.symm.trans hroot⟩
    · rintro ⟨other, hi, hj⟩
      exact hi.trans hj.symm
  · intro i hi
    exact ⟨_, getElem?_views_after hi, rfl, rfl, rfl, rfl, rfl⟩
  · intro step handle i hi hother
    rw [getElem?_views_apply hof step handle hi, if_neg hother.symm]

/-- A handle that is made from one that was made from another one is cleared, and later the first of
them is told something. The third handle is fresh and was told something else. -/
theorem all_three_handles_show_what_one_was_told :
    let server : Address := .v4 ⟨1, 1, 1, 1⟩
    let other : Address := .v4 ⟨8, 8, 8, 8⟩
    -- The latest step comes first, so this is read from its end.
    let past : List (Step × Nat) :=
      [(.command (.setStatus .up), 4), (.command (.setServers [server]), 1), (.clear, 3),
        (.share, 1), (.command (.setServers [other]), 2), (.fresh, 0),
        (.command .reconnect, 1), (.share, 0), (.command .reconnect, 0)]
    let shelf := after past
    let shown : Memory := ⟨[[server]], 0, [.up]⟩
    0 < (births past).length ∧ 3 < (births past).length ∧
      origin (births past) 3 ≠ origin (births past) (6 % (births past).length) ∧
      shelf.views = [shown, shown, ⟨[[other]], 0, []⟩, shown] ∧
      shelf.group 0 = shelf.group 3 ∧ shelf.group 0 ≠ shelf.group 2 ∧
      (shelf.apply .clear 6).views[3]? = shelf.views[3]? := by
  intro server other past shelf shown
  obtain ⟨-, hgroups, -, hothers⟩ := handles_share_memory_by_origin past
  have hfirst : 0 < (births past).length := by decide
  have hthird : 2 < (births past).length := by decide
  have hlast : 3 < (births past).length := by decide
  have hne : origin (births past) 3 ≠ origin (births past) (6 % (births past).length) := by decide
  refine ⟨hfirst, hlast, hne, by decide, ?_, ?_, hothers .clear 6 3 hlast hne⟩
  · exact (hgroups 0 hfirst 3 hlast).mpr ⟨0, by decide, by decide⟩
  · intro hsame
    obtain ⟨root, hzero, htwo⟩ := (hgroups 0 hfirst 2 hthird).mp hsame
    have horigin : origin (births past) 0 = origin (births past) 2 := hzero.trans htwo.symm
    exact absurd horigin (by decide)

end PathKeeper.Shelf
