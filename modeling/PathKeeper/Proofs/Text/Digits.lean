import Mathlib.Data.List.Induction
import Mathlib.Data.Nat.Digits.Defs
import PathKeeper.Text.Digit

/-!
# Reading back numbers

The digits of a number spell the number, in the two bases that addresses are written in. No number
but zero is written with a zero in front, and without one nothing else spells the number.
-/

namespace PathKeeper.Text

set_option autoImplicit false

theorem spelled?_append (value? : Char → Option Nat) (base n : Nat) (s t : List Char) :
    spelled? value? base n (s ++ t) =
      (spelled? value? base n s).bind fun m => spelled? value? base m t := by
  induction s generalizing n with
  | nil => rfl
  | cons c s ih =>
    rw [List.cons_append, spelled?, spelled?]
    cases value? c with
    | none => rfl
    | some d => exact ih (n * base + d)

/-- A text that spells a number has digits only. -/
theorem isSome_of_spelled? {value? : Char → Option Nat} {base n m : Nat} {s : List Char}
    (h : spelled? value? base n s = some m) : ∀ c ∈ s, (value? c).isSome := by
  induction s generalizing n with
  | nil => simp
  | cons c s ih =>
    rw [spelled?] at h
    cases hc : value? c with
    | none => simp [hc] at h
    | some d =>
      simp only [hc] at h
      intro other hother
      rcases List.mem_cons.mp hother with rfl | hrest
      · simp [hc]
      · exact ih h other hrest

theorem spelled?_lt {value? : Char → Option Nat} {base : Nat}
    (hvalue : ∀ c d, value? c = some d → d < base) {n m : Nat} {s : List Char}
    (h : spelled? value? base n s = some m) : m < (n + 1) * base ^ s.length := by
  induction s generalizing n with
  | nil =>
    cases h
    simp
  | cons c s ih =>
    rw [spelled?] at h
    cases hc : value? c with
    | none => simp [hc] at h
    | some d =>
      simp only [hc] at h
      have hd : d < base := hvalue c d hc
      calc m < (n * base + d + 1) * base ^ s.length := ih h
        _ ≤ (n + 1) * base * base ^ s.length := by
          apply Nat.mul_le_mul_right
          rw [Nat.add_mul]
          omega
        _ = (n + 1) * base ^ (c :: s).length := by
          rw [List.length_cons, Nat.pow_succ, Nat.mul_assoc, Nat.mul_comm base]

theorem le_of_spelled? {value? : Char → Option Nat} {base n m : Nat} (hbase : 0 < base)
    {s : List Char} (h : spelled? value? base n s = some m) : n ≤ m := by
  induction s generalizing n with
  | nil => exact (Option.some.inj h).le
  | cons c s ih =>
    rw [spelled?] at h
    cases hc : value? c with
    | none => simp [hc] at h
    | some d =>
      simp only [hc] at h
      exact (Nat.le_mul_of_pos_right n hbase).trans ((Nat.le_add_right _ d).trans (ih h))

theorem digit?_digitChar : ∀ d < 10, digit? d.digitChar = some d := by decide

theorem hexDigit?_digitChar : ∀ d < 16, hexDigit? d.digitChar = some d := by decide

theorem eq_digitChar_of_digit? {c : Char} {d : Nat} (h : digit? c = some d) :
    c = d.digitChar := by
  have hdigits : ∀ d < 10, Char.ofNat (d + 48) = d.digitChar := by decide
  have hless : d < 10 := digit?_lt h
  have h0 : ('0' : Char).toNat = 48 := rfl
  unfold digit? at h
  split at h
  · next hc =>
    have hleast := char_le_iff.mp hc.1
    have hd : c.toNat = d + 48 := by
      simp only [Option.some.injEq] at h
      omega
    rw [← hdigits d hless, ← hd, Char.ofNat_toNat]
  · cases h

section Bases

variable {base : Nat} (hbase : 1 < base)
include hbase

theorem exists_digit_of_mem_toDigits {n : Nat} {c : Char} (h : c ∈ Nat.toDigits base n) :
    ∃ d < base, c = d.digitChar := by
  induction n using Nat.strongRecOn with
  | _ n ih =>
    rw [Nat.toDigits_eq_if hbase] at h
    split at h
    · next hn => exact ⟨n, hn, List.mem_singleton.mp h⟩
    · next hn =>
      rcases List.mem_append.mp h with hfront | hlast
      · exact ih (n / base) (Nat.div_lt_self (by omega) hbase) hfront
      · exact ⟨n % base, Nat.mod_lt n (by omega), List.mem_singleton.mp hlast⟩

theorem spelled?_toDigits {value? : Char → Option Nat}
    (hvalue : ∀ d < base, value? d.digitChar = some d) (n : Nat) :
    spelled? value? base 0 (Nat.toDigits base n) = some n := by
  induction n using Nat.strongRecOn with
  | _ n ih =>
    rw [Nat.toDigits_eq_if hbase]
    split
    · next hn => simp [spelled?, hvalue n hn]
    · next hn =>
      have hfront := ih (n / base) (Nat.div_lt_self (by omega) hbase)
      have hlast : n % base < base := Nat.mod_lt n (by omega)
      rw [spelled?_append, hfront]
      simp [spelled?, hvalue _ hlast, Nat.div_add_mod']

theorem head?_toDigits_ne_zero (hmost : base ≤ 16) {n : Nat} (hn : n ≠ 0) :
    (Nat.toDigits base n).head? ≠ some '0' := by
  have hdigits : ∀ d < 16, d ≠ 0 → d.digitChar ≠ '0' := by decide
  induction n using Nat.strongRecOn with
  | _ n ih =>
    rw [Nat.toDigits_eq_if hbase]
    split
    · next hless =>
      have hchar := hdigits n (by omega) hn
      simpa using hchar
    · next hless =>
      have hpos : 0 < n / base := Nat.div_pos (by omega) (by omega)
      have hfront := ih (n / base) (Nat.div_lt_self (by omega) hbase) hpos.ne'
      obtain ⟨c, s, hcons⟩ := List.exists_cons_of_ne_nil (Nat.toDigits_ne_nil (n := n / base)
        (b := base))
      rw [hcons] at hfront ⊢
      exact hfront

end Bases

/-- Without a zero in front there is one way to spell a number. -/
theorem eq_toDigits_of_spelled? {s : List Char} {n : Nat} (h : spelled? digit? 10 0 s = some n)
    (hne : s ≠ []) (hzero : s.head? = some '0' → s.length = 1) : s = Nat.toDigits 10 n := by
  induction s using List.reverseRecOn generalizing n with
  | nil => exact absurd rfl hne
  | append_singleton front c ih =>
    rw [spelled?_append] at h
    obtain ⟨m, hfront, hlast⟩ := Option.bind_eq_some_iff.mp h
    simp only [spelled?] at hlast
    cases hc : digit? c with
    | none => simp [hc] at hlast
    | some d =>
      have hless : d < 10 := digit?_lt hc
      have hn : n = m * 10 + d := by
        simp only [hc, Option.some.injEq] at hlast
        exact hlast.symm
      rw [eq_digitChar_of_digit? hc]
      cases front with
      | nil =>
        cases hfront
        rw [hn, Nat.zero_mul, Nat.zero_add, Nat.toDigits_of_lt_base hless]
        rfl
      | cons first rest =>
        have hfirst : (first :: rest).head? ≠ some '0' := by
          intro h0
          have hlength := hzero h0
          simp at hlength
        have hdigits := ih hfront (List.cons_ne_nil _ _) fun h0 => absurd h0 hfirst
        have hm : m ≠ 0 := by
          rintro rfl
          rw [hdigits] at hfirst
          exact hfirst rfl
        have hquotient : n / 10 = m := by omega
        have hremainder : n % 10 = d := by omega
        rw [Nat.toDigits_eq_if (by decide), if_neg (by omega), hquotient, hremainder, ← hdigits]

end PathKeeper.Text
