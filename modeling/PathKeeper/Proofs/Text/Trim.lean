import Mathlib.Data.List.TakeWhile
import PathKeeper.Text.Blank

/-!
# Trimming

A text is its trimmed form with blanks around it. Trimming takes away the blanks that are put around
a text and stops at the first and the last character that is none.
-/

namespace PathKeeper.Text

set_option autoImplicit false

def AllBlank (s : List Char) : Prop := ∀ c ∈ s, isBlank c = true

theorem allBlank_nil : AllBlank [] := List.forall_mem_nil _

theorem trimEnd_append_blanks {back : List Char} (h : AllBlank back) (s : List Char) :
    trimEnd (s ++ back) = trimEnd s := by
  have hback : ∀ c ∈ back.reverse, isBlank c = true := by
    intro c hc
    exact h c (List.mem_reverse.mp hc)
  rw [trimEnd, List.reverse_append, List.dropWhile_append_of_pos hback]
  rfl

theorem trim_surrounded {front back : List Char} (hfront : AllBlank front) (hback : AllBlank back)
    (s : List Char) : trim (front ++ s ++ back) = trim s := by
  rw [trim, List.append_assoc, List.dropWhile_append_of_pos hfront, List.dropWhile_append]
  split
  · next hs =>
    have hnil : back.dropWhile isBlank = [] := List.dropWhile_eq_nil_iff.mpr hback
    rw [trim, hnil, List.isEmpty_iff.mp hs]
  · exact trimEnd_append_blanks hback _

theorem trim_append_of_isBlank {c : Char} (h : isBlank c = true) (s : List Char) :
    trim (s ++ [c]) = trim s := by
  have hback : AllBlank [c] := List.forall_mem_singleton.mpr h
  simpa using trim_surrounded allBlank_nil hback s

/-- Trimming the end does not go beyond a character that is no blank. -/
theorem trimEnd_append_cons {c : Char} (h : isBlank c = false) (s t : List Char) :
    trimEnd (s ++ c :: t) = s ++ c :: trimEnd t := by
  have hreverse : (s ++ c :: t).reverse = t.reverse ++ (c :: s.reverse) := by simp
  have hstop : (c :: s.reverse).dropWhile isBlank = c :: s.reverse :=
    List.dropWhile_cons_of_neg (by simp [h])
  rw [trimEnd, hreverse, List.dropWhile_append]
  split
  · next ht => simp [hstop, trimEnd, List.isEmpty_iff.mp ht]
  · simp [trimEnd]

theorem trim_cons {c : Char} (h : isBlank c = false) (s : List Char) :
    trim (c :: s) = c :: trimEnd s := by
  rw [trim, List.dropWhile_cons_of_neg (by simp [h])]
  exact trimEnd_append_cons h [] s

theorem trimEnd_eq_self {s : List Char} (h : ∀ c ∈ s, isBlank c = false) : trimEnd s = s := by
  induction s with
  | nil => rfl
  | cons c s ih =>
    obtain ⟨hc, hs⟩ := List.forall_mem_cons.mp h
    have hcons := trimEnd_append_cons hc [] s
    rwa [ih hs] at hcons

theorem exists_trimEnd (s : List Char) : ∃ back, AllBlank back ∧ s = trimEnd s ++ back := by
  refine ⟨(s.reverse.takeWhile isBlank).reverse, ?_, ?_⟩
  · intro c hc
    exact List.mem_takeWhile_imp (List.mem_reverse.mp hc)
  · rw [trimEnd, ← List.reverse_append, List.takeWhile_append_dropWhile, List.reverse_reverse]

theorem exists_trim (s : List Char) :
    ∃ front back, AllBlank front ∧ AllBlank back ∧ s = front ++ trim s ++ back := by
  obtain ⟨back, hback, hend⟩ := exists_trimEnd (s.dropWhile isBlank)
  refine ⟨s.takeWhile isBlank, back, ?_, hback, ?_⟩
  · intro c hc
    exact List.mem_takeWhile_imp hc
  · rw [List.append_assoc, trim, ← hend, List.takeWhile_append_dropWhile]

end PathKeeper.Text
