import PathKeeper.Json.Reader
import PathKeeper.Proofs.Text.Digits

/-!
# Reading back integers

An unsigned integer that is read has 64 bits, and each that has is read back from its literal, if
nothing follows that would carry the literal on.
-/

namespace PathKeeper.Json

set_option autoImplicit false

open Text (digit? le_of_spelled? spelled?)

/-! ## Digits -/

theorem digit?_eq_some_iff {c : Char} {d : Nat} :
    digit? c = some d ↔ isDigit c = true ∧ digitValue c = d := by
  simp only [digit?, isDigit, digitValue, Bool.and_eq_true, decide_eq_true_eq]
  split
  · next hc => simp [hc]
  · next hc => simp [hc]

theorem isBlank_of_isDigit {c : Char} (h : isDigit c = true) : isBlank c = false := by
  rw [Bool.eq_false_iff]
  intro hblank
  simp only [isBlank, Bool.or_eq_true, beq_iff_eq] at hblank
  rcases hblank with ((rfl | rfl) | rfl) | rfl <;> exact absurd h (by decide)

/-- The number that digits spell is taken whole if 64 bits hold it. -/
theorem takeDigits_spelled {n m : Nat} {s : List Char} (h : spelled? digit? 10 n s = some m)
    (hm : m < significandLimit) {rest : List Char} (hrest : rest.head?.any isDigit = false) :
    takeDigits n (s ++ rest) = (m, 0, rest) := by
  induction s generalizing n with
  | nil =>
    obtain rfl := Option.some.inj h
    cases rest with
    | nil => rfl
    | cons c rest =>
      have hc : isDigit c = false := hrest
      simp [takeDigits, hc]
  | cons c s ih =>
    rw [spelled?] at h
    cases hc : digit? c with
    | none => simp [hc] at h
    | some d =>
      obtain ⟨hdigit, hvalue⟩ := digit?_eq_some_iff.mp hc
      simp only [hc] at h
      have hfits : n * 10 + d < significandLimit := (le_of_spelled? (by decide) h).trans_lt hm
      rw [List.cons_append, takeDigits, if_pos hdigit, hvalue, if_pos hfits]
      exact ih h

theorem takeDigits_lt {n : Nat} (h : n < significandLimit) (s : List Char) :
    (takeDigits n s).1 < significandLimit := by
  induction s generalizing n with
  | nil => exact h
  | cons c s ih =>
    rw [takeDigits]
    split
    · split
      · next hfits => exact ih hfits
      · exact h
    · exact h

/-! ## Integers that are read -/

theorem double_ne_natural (positive : Bool) (significand : Nat) (exponent : Int) (n : Nat) :
    double positive significand exponent ≠ .ok (.natural n) := by
  intro h
  simp only [double] at h
  split_ifs at h <;> cases h

theorem natural_of_integer {positive : Bool} {significand n : Nat}
    (h : integer positive significand = .ok (.natural n)) : n = significand := by
  unfold integer at h
  split at h
  · cases h
    rfl
  · split at h
    · cases h
    · exact absurd h (double_ne_natural _ _ _ _)

theorem eq_ok_of_withRest {answer : Except Fault Number} {number : Number} {s rest : List Char}
    (h : withRest s answer = .ok (number, rest)) : answer = .ok number := by
  cases answer with
  | error fault => cases h
  | ok other =>
    cases h
    rfl

theorem readExponentDigits_ne_natural (positive : Bool) (significand : Nat) (start : Int)
    (up : Bool) (s : List Char) (n : Nat) (rest : List Char) :
    readExponentDigits positive significand start up s ≠ .ok (.natural n, rest) := by
  intro h
  cases s with
  | nil => cases h
  | cons c s =>
    rw [readExponentDigits] at h
    split at h
    · split at h
      · exact double_ne_natural _ _ _ _ (eq_ok_of_withRest h)
      · split at h
        · cases h
        · exact double_ne_natural _ _ _ _ (eq_ok_of_withRest h)
    · cases h

theorem readExponent_ne_natural (positive : Bool) (significand : Nat) (start : Int)
    (s : List Char) (n : Nat) (rest : List Char) :
    readExponent positive significand start s ≠ .ok (.natural n, rest) := by
  unfold readExponent
  split <;> exact readExponentDigits_ne_natural _ _ _ _ _ _ _

theorem readPlaces_ne_natural (positive : Bool) (significand : Nat) (start : Int)
    (s : List Char) (n : Nat) (rest : List Char) :
    readPlaces positive significand start s ≠ .ok (.natural n, rest) := by
  intro h
  cases s with
  | nil => cases h
  | cons c s =>
    rw [readPlaces] at h
    split at h
    · simp only at h
      split at h
      · exact readExponent_ne_natural _ _ _ _ _ _ h
      · exact readExponent_ne_natural _ _ _ _ _ _ h
      · exact double_ne_natural _ _ _ _ (eq_ok_of_withRest h)
    · cases h

theorem natural_of_readNumberTail {positive : Bool} {significand skipped n : Nat}
    {s rest : List Char}
    (h : readNumberTail positive significand skipped s = .ok (.natural n, rest)) :
    n = significand := by
  unfold readNumberTail at h
  split at h
  · exact absurd h (readPlaces_ne_natural _ _ _ _ _ _)
  · exact absurd h (readExponent_ne_natural _ _ _ _ _ _)
  · exact absurd h (readExponent_ne_natural _ _ _ _ _ _)
  · have hnumber := eq_ok_of_withRest h
    split at hnumber
    · exact natural_of_integer hnumber
    · exact absurd hnumber (double_ne_natural _ _ _ _)

theorem natural_lt_of_readNumber {positive : Bool} {n : Nat} {s rest : List Char}
    (h : readNumber positive s = .ok (.natural n, rest)) : n < significandLimit := by
  cases s with
  | nil => cases h
  | cons c s =>
    have hzero : 0 < significandLimit := by decide
    rw [readNumber] at h
    split at h
    · split at h
      · cases h
      · rw [natural_of_readNumberTail h]
        exact hzero
    · split at h
      · rw [natural_of_readNumberTail h]
        exact takeDigits_lt hzero (c :: s)
      · cases h

/-- What is read as an unsigned integer has 64 bits. -/
theorem lt_of_readUnsigned {n : Nat} {s rest : List Char} (h : readUnsigned s = .ok (n, rest)) :
    n < significandLimit := by
  unfold readUnsigned at h
  split at h
  · cases h
  · simp only at h
    split at h
    · next hnumber =>
      cases h
      split at hnumber
      · exact natural_lt_of_readNumber hnumber
      · split at hnumber
        · exact natural_lt_of_readNumber hnumber
        · cases hnumber
    · cases h
    · cases h
    · cases h

/-! ## Integers that are read back -/

/-- Nothing that carries a number on stands in front. -/
def EndsNumber (rest : List Char) : Prop :=
  ∀ c ∈ rest.head?, isDigit c = false ∧ c ≠ '.' ∧ c ≠ 'e' ∧ c ≠ 'E'

theorem EndsNumber.any_isDigit {rest : List Char} (h : EndsNumber rest) :
    rest.head?.any isDigit = false := by
  cases rest with
  | nil => rfl
  | cons c rest => exact (h c rfl).1

theorem readNumberTail_of_ends {rest : List Char} (h : EndsNumber rest) (n : Nat) :
    readNumberTail true n 0 rest = .ok (.natural n, rest) := by
  unfold readNumberTail
  split
  · exact absurd rfl (h '.' rfl).2.1
  · exact absurd rfl (h 'e' rfl).2.2.1
  · exact absurd rfl (h 'E' rfl).2.2.2
  · rfl

theorem natural_ne_nil (n : Nat) : natural n ≠ [] := Nat.toDigits_ne_nil

theorem readNumber_natural {n : Nat} (hn : n < significandLimit) {rest : List Char}
    (hrest : EndsNumber rest) : readNumber true (natural n ++ rest) = .ok (.natural n, rest) := by
  by_cases hzero : n = 0
  · subst hzero
    have hdigit : rest.head?.any isDigit = false := hrest.any_isDigit
    have hhead : (rest.head?.map isDigit).getD false = false := by
      cases rest <;> simp_all
    have hliteral : natural 0 = ['0'] := rfl
    rw [hliteral, List.singleton_append, readNumber, if_pos rfl, hhead, if_neg Bool.false_ne_true]
    exact readNumberTail_of_ends hrest 0
  · have hspelled : spelled? digit? 10 0 (natural n) = some n :=
      Text.spelled?_toDigits (by decide) Text.digit?_digitChar n
    have hfirst : (natural n).head? ≠ some '0' :=
      Text.head?_toDigits_ne_zero (by decide) (by decide) hzero
    obtain ⟨c, s, hcons⟩ := List.exists_cons_of_ne_nil (natural_ne_nil n)
    have htaken := takeDigits_spelled hspelled hn hrest.any_isDigit
    obtain ⟨d, hd⟩ := Option.isSome_iff_exists.mp
      (Text.isSome_of_spelled? hspelled c (by simp [hcons]))
    rw [hcons] at hfirst htaken ⊢
    have hne : c ≠ '0' := fun hc => hfirst (by rw [hc]; rfl)
    rw [List.cons_append, readNumber, if_neg hne, if_pos (digit?_eq_some_iff.mp hd).1,
      ← List.cons_append, htaken]
    exact readNumberTail_of_ends hrest n

theorem readUnsigned_natural {n : Nat} (hn : n < significandLimit) {rest : List Char}
    (hrest : EndsNumber rest) : readUnsigned (natural n ++ rest) = .ok (n, rest) := by
  have hnumber := readNumber_natural hn hrest
  obtain ⟨c, s, hcons⟩ := List.exists_cons_of_ne_nil (natural_ne_nil n)
  have hmem : c ∈ natural n := by simp [hcons]
  obtain ⟨d, hless, hd⟩ := Text.exists_digit_of_mem_toDigits (by decide) hmem
  have hdigit : isDigit c = true := (digit?_eq_some_iff.mp (hd ▸ Text.digit?_digitChar d hless)).1
  have hminus : c ≠ '-' := by
    rintro rfl
    exact absurd hdigit (by decide)
  rw [hcons, List.cons_append] at hnumber ⊢
  rw [readUnsigned, dropBlank_cons_of_not (isBlank_of_isDigit hdigit)]
  simp only [if_neg hminus, hdigit, if_true, hnumber]

end PathKeeper.Json
