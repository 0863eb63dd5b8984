import PathKeeper.Bridge.Writer

/-!
# Writing everything

A sink without limits may still take a line in several writes. It takes all of every line. Whatever
a sink takes, it counts the units of a line and does not look at them.
-/

namespace PathKeeper.Bridge

set_option autoImplicit false

variable {α : Type}

/-- A sink that takes everything. One write may take only a part, but takes something. -/
structure Sink.TakesAll (sink : Sink) : Prop where
  room : sink.room = none
  chunk : sink.chunk ≠ some 0
  flushFault : sink.flushFault = none

namespace Sink.TakesAll

variable {sink : Sink}

theorem isExhausted (h : sink.TakesAll) (taken : Nat) : sink.isExhausted taken = false := by
  simp [Sink.isExhausted, h.room]

theorem takes_ne_zero (h : sink.TakesAll) (taken : Nat) {offered : Nat} (hoffered : offered ≠ 0) :
    sink.takes taken offered ≠ 0 := by
  rw [takes, h.room]
  cases hchunk : sink.chunk with
  | none => exact hoffered
  | some m =>
    have hm : m ≠ 0 := by
      rintro rfl
      exact h.chunk hchunk
    simp only [Option.map_none, atMost]
    omega

theorem writeLine (h : sink.TakesAll) (taken : Nat) (line : List α) :
    writeLine sink taken line = (line, none) := by
  fun_induction Bridge.writeLine sink taken line with
  | case1 taken => rfl
  | case2 taken line hne hexhausted =>
    rw [h.isExhausted] at hexhausted
    cases hexhausted
  | case3 taken line hne hexhausted hzero =>
    have hlength : line.length ≠ 0 := fun hlength => hne (List.length_eq_zero_iff.mp hlength)
    exact absurd hzero (h.takes_ne_zero taken hlength)
  | case4 taken line hne hexhausted hzero n rest ih =>
    have hrest : rest = (line.drop n, none) := ih
    rw [hrest, List.take_append_drop]

theorem flushFailure (h : sink.TakesAll) (taken : Nat) : flushFailure sink taken = none := by
  simp [Bridge.flushFailure, h.flushFault]

theorem writeLines (h : sink.TakesAll) (taken count : Nat) (lines : List (List α)) :
    writeLines sink taken count lines = (lines.flatten, .complete (count + lines.length)) := by
  induction lines generalizing taken count with
  | nil => rfl
  | cons line lines ih =>
    rw [Bridge.writeLines, h.writeLine]
    simp only [h.flushFailure, ih, List.flatten_cons, List.length_cons]
    rw [Nat.add_right_comm, Nat.add_assoc]

theorem write (h : sink.TakesAll) (lines : List (List α)) :
    write sink lines = (lines.flatten, .complete lines.length) := by
  rw [Bridge.write, h.writeLines, Nat.zero_add]

end Sink.TakesAll

/-! ## One write or flush -/

section Step

variable {sink : Sink} {taken : Nat} {line : List α}

theorem writeLines_of_isExhausted (hline : line ≠ []) (h : sink.isExhausted taken = true)
    (count : Nat) (lines : List (List α)) :
    writeLines sink taken count (line :: lines) = ([], sink.stop.ending) := by
  rw [writeLines, writeLine, if_neg hline, if_pos h]

theorem writeLines_of_takes_eq_zero (hline : line ≠ []) (hroom : ¬ sink.isExhausted taken = true)
    (h : sink.takes taken line.length = 0) (count : Nat) (lines : List (List α)) :
    writeLines sink taken count (line :: lines) = ([], .failed zeroFailure) := by
  rw [writeLines, writeLine, if_neg hline, if_neg hroom, dif_pos h]

theorem writeLine_of_takes {n : Nat} (hline : line ≠ []) (hroom : ¬ sink.isExhausted taken = true)
    (h : sink.takes taken line.length = n) (hn : n ≠ 0) :
    writeLine sink taken line =
      (line.take n ++ (writeLine sink (taken + n) (line.drop n)).1,
        (writeLine sink (taken + n) (line.drop n)).2) := by
  subst h
  rw [writeLine, if_neg hline, if_neg hroom, dif_neg hn]

theorem writeLines_of_takes {n : Nat} (hline : line ≠ []) (hroom : ¬ sink.isExhausted taken = true)
    (h : sink.takes taken line.length = n) (hn : n ≠ 0) (count : Nat) (lines : List (List α)) :
    writeLines sink taken count (line :: lines) =
      (line.take n ++ (writeLines sink (taken + n) count (line.drop n :: lines)).1,
        (writeLines sink (taken + n) count (line.drop n :: lines)).2) := by
  have hle : n ≤ line.length := h ▸ sink.takes_le taken line.length
  rw [writeLines, writeLine_of_takes hline hroom h hn, writeLines]
  generalize writeLine sink (taken + n) (line.drop n) = answer
  obtain ⟨written, _ | ending⟩ := answer
  · simp only [List.length_append, List.length_take, Nat.min_eq_left hle, ← Nat.add_assoc]
    cases flushFailure sink (taken + n + written.length) with
    | some failure => rfl
    | none => simp only [List.append_assoc]
  · rfl

theorem writeLines_nil_cons (sink : Sink) (taken count : Nat) (lines : List (List α)) :
    writeLines sink taken count ([] :: lines) =
      match flushFailure sink taken with
      | some failure => ([], .failed failure)
      | none => writeLines sink taken (count + 1) lines := by
  rw [writeLines, writeLine, if_pos rfl]
  rfl

end Step

/-! ## What is written -/

section Map

variable {β : Type}

theorem writeLine_map (f : α → β) (sink : Sink) (taken : Nat) (line : List α) :
    writeLine sink taken (line.map f) =
      ((writeLine sink taken line).1.map f, (writeLine sink taken line).2) := by
  fun_induction writeLine sink taken line with
  | case1 taken => simp [writeLine]
  | case2 taken line hne hexhausted =>
    rw [writeLine, if_neg (by simpa using hne), if_pos hexhausted]
    rfl
  | case3 taken line hne hexhausted hzero =>
    rw [writeLine, if_neg (by simpa using hne), if_neg hexhausted,
      dif_pos (by rwa [List.length_map])]
    rfl
  | case4 taken line hne hexhausted hzero n rest ih =>
    rw [writeLine_of_takes (by simpa using hne) hexhausted (by rw [List.length_map]) hzero,
      ← List.map_drop, ih, List.map_append, List.map_take]

theorem writeLines_map (f : α → β) (sink : Sink) (taken count : Nat) (lines : List (List α)) :
    writeLines sink taken count (lines.map (List.map f)) =
      ((writeLines sink taken count lines).1.map f, (writeLines sink taken count lines).2) := by
  induction lines generalizing taken count with
  | nil => rfl
  | cons line lines ih =>
    rw [List.map_cons, writeLines, writeLines, writeLine_map]
    obtain ⟨written, _ | ending⟩ := writeLine sink taken line
    · simp only [List.length_map]
      cases flushFailure sink (taken + written.length) with
      | some failure => rfl
      | none => simp only [ih, List.map_append]
    · rfl

end Map

theorem writeLines_subset (sink : Sink) (taken count : Nat) (lines : List (List α)) :
    (writeLines sink taken count lines).1 ⊆ lines.flatten := by
  induction lines generalizing taken count with
  | nil => exact List.Subset.refl _
  | cons line lines ih =>
    have hline := (writeLine_isPrefix sink taken line).subset
    rw [writeLines, List.flatten_cons]
    generalize writeLine sink taken line = answer at hline ⊢
    obtain ⟨written, _ | ending⟩ := answer
    · have hfront : written ⊆ line ++ lines.flatten := List.subset_append_of_subset_left _ hline
      simp only
      cases flushFailure sink (taken + written.length) with
      | some failure => exact hfront
      | none =>
        exact List.append_subset.mpr ⟨hfront, List.subset_append_of_subset_right _ (ih _ _)⟩
    · exact List.subset_append_of_subset_left _ hline

end PathKeeper.Bridge
