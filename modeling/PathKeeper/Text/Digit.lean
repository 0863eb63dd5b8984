/-!
# Digits

The values of decimal and hexadecimal digits. Only ASCII characters are digits.
-/

namespace PathKeeper.Text

set_option autoImplicit false

def digit? (c : Char) : Option Nat :=
  if '0' ≤ c ∧ c ≤ '9' then some (c.toNat - 48) else none

/-- The value of a hexadecimal digit of either case. -/
def hexDigit? (c : Char) : Option Nat :=
  if '0' ≤ c ∧ c ≤ '9' then some (c.toNat - 48)
  else if 'a' ≤ c ∧ c ≤ 'f' then some (c.toNat - 87)
  else if 'A' ≤ c ∧ c ≤ 'F' then some (c.toNat - 55)
  else none

/-- The number that digits of a base spell, the value of a digit given by `value?`. -/
def spelled? (value? : Char → Option Nat) (base : Nat) : Nat → List Char → Option Nat
  | n, [] => some n
  | n, c :: s =>
    match value? c with
    | some d => spelled? value? base (n * base + d) s
    | none => none

theorem char_le_iff {a b : Char} : a ≤ b ↔ a.toNat ≤ b.toNat :=
  UInt32.le_iff_toNat_le

theorem digit?_lt {c : Char} {d : Nat} (h : digit? c = some d) : d < 10 := by
  unfold digit? at h
  split at h
  · next hc =>
    have h2 := char_le_iff.mp hc.2
    have h9 : ('9' : Char).toNat = 57 := rfl
    simp only [Option.some.injEq] at h
    omega
  · simp at h

theorem hexDigit?_lt {c : Char} {d : Nat} (h : hexDigit? c = some d) : d < 16 := by
  have h9 : ('9' : Char).toNat = 57 := rfl
  have hf : ('f' : Char).toNat = 102 := rfl
  have hF : ('F' : Char).toNat = 70 := rfl
  unfold hexDigit? at h
  split at h
  · next hc =>
    have h2 := char_le_iff.mp hc.2
    simp only [Option.some.injEq] at h
    omega
  · split at h
    · next hc =>
      have h2 := char_le_iff.mp hc.2
      simp only [Option.some.injEq] at h
      omega
    · split at h
      · next hc =>
        have h2 := char_le_iff.mp hc.2
        simp only [Option.some.injEq] at h
        omega
      · simp at h

end PathKeeper.Text
