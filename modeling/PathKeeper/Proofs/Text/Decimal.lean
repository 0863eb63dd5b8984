import PathKeeper.Proofs.Text.Digits
import PathKeeper.Text.Decimal

/-!
# Which texts are unsigned decimals

A number is read from its decimal digits, perhaps with zeros and a plus sign in front, and from no
other text; and no number is read that needs more than 64 bits.
-/

namespace PathKeeper.Text.Decimal

set_option autoImplicit false

/-- The text is the number in decimal, perhaps with zeros and a plus sign in front. -/
def Denotes (s : List Char) (n : Nat) : Prop :=
  ∃ sign zeros, (sign = [] ∨ sign = ['+']) ∧
    s = sign ++ (List.replicate zeros '0' ++ Nat.toDigits 10 n)

/-! ## Digits -/

theorem continued_eq_ok_iff {n m : Nat} {s : List Char} (hn : n < limit) :
    continued n s = .ok m ↔ spelled? digit? 10 n s = some m ∧ m < limit := by
  induction s generalizing n with
  | nil =>
    rw [continued_nil, spelled?, Except.ok.injEq, Option.some.injEq]
    constructor
    · rintro rfl
      exact ⟨rfl, hn⟩
    · exact And.left
  | cons c s ih =>
    rw [continued, spelled?]
    cases digit? c with
    | none => simp
    | some d =>
      simp only
      split
      · next hfits => exact ih hfits
      · next hlarge =>
        -- What follows makes the number no smaller.
        refine iff_of_false (by simp) ?_
        rintro ⟨hspelled, hm⟩
        exact hlarge ((le_of_spelled? (by decide) hspelled).trans_lt hm)

theorem spelled?_zeros (zeros : Nat) (s : List Char) :
    spelled? digit? 10 0 (List.replicate zeros '0' ++ s) = spelled? digit? 10 0 s := by
  induction zeros with
  | zero => rfl
  | succ zeros ih => exact ih

theorem spelled?_iff_zeros {s : List Char} {n : Nat} (hne : s ≠ []) :
    spelled? digit? 10 0 s = some n ↔
      ∃ zeros, s = List.replicate zeros '0' ++ Nat.toDigits 10 n := by
  constructor
  · intro h
    induction s with
    | nil => exact absurd rfl hne
    | cons c s ih =>
      by_cases hzero : c = '0' ∧ s ≠ []
      · obtain ⟨rfl, hrest⟩ := hzero
        obtain ⟨zeros, rfl⟩ := ih hrest h
        exact ⟨zeros + 1, rfl⟩
      · refine ⟨0, eq_toDigits_of_spelled? h hne fun hhead => ?_⟩
        rw [List.head?_cons, Option.some.injEq] at hhead
        have hnil : s = [] := by
          by_contra hrest
          exact hzero ⟨hhead, hrest⟩
        rw [hnil, List.length_singleton]
  · rintro ⟨zeros, rfl⟩
    rw [spelled?_zeros]
    exact spelled?_toDigits (by decide) digit?_digitChar n

/-! ## Numbers -/

theorem ne_plus_of_spelled? {c : Char} {s : List Char} {n : Nat}
    (h : spelled? digit? 10 0 (c :: s) = some n) : c ≠ '+' := by
  rintro rfl
  cases h

theorem denotes_iff_spelled? {s : List Char} {n : Nat} :
    Denotes s n ↔ ∃ digits, digits ≠ [] ∧ (s = digits ∨ s = '+' :: digits) ∧
      spelled? digit? 10 0 digits = some n := by
  constructor
  · rintro ⟨sign, zeros, hsign, rfl⟩
    have hne : List.replicate zeros '0' ++ Nat.toDigits 10 n ≠ [] := by
      simp [Nat.toDigits_ne_nil]
    refine ⟨_, hne, ?_, (spelled?_iff_zeros hne).mpr ⟨zeros, rfl⟩⟩
    rcases hsign with rfl | rfl
    · exact .inl rfl
    · exact .inr rfl
  · rintro ⟨digits, hne, hs, hspelled⟩
    obtain ⟨zeros, rfl⟩ := (spelled?_iff_zeros hne).mp hspelled
    rcases hs with rfl | rfl
    · exact ⟨[], zeros, .inl rfl, rfl⟩
    · exact ⟨['+'], zeros, .inr rfl, rfl⟩

theorem read_eq_ok_iff {s : List Char} {n : Nat} :
    read s = .ok n ↔ Denotes s n ∧ n < limit := by
  have hzero : 0 < limit := by decide
  rw [denotes_iff_spelled?]
  unfold read
  split
  · simp
  · refine iff_of_false (by simp) ?_
    rintro ⟨⟨digits, hne, hs | hs, hspelled⟩, -⟩
    · exact ne_plus_of_spelled? (hs ▸ hspelled) rfl
    · exact hne (List.cons.inj hs).2.symm
  · next rest hrest =>
    rw [continued_eq_ok_iff hzero]
    constructor
    · rintro ⟨hspelled, hn⟩
      exact ⟨⟨rest, fun hnil => hrest (hnil ▸ rfl), .inr rfl, hspelled⟩, hn⟩
    · rintro ⟨⟨digits, -, hs | hs, hspelled⟩, hn⟩
      · exact absurd rfl (ne_plus_of_spelled? (hs ▸ hspelled))
      · exact ⟨(List.cons.inj hs).2 ▸ hspelled, hn⟩
  · next hnil hplus hsign =>
    rw [continued_eq_ok_iff hzero]
    constructor
    · rintro ⟨hspelled, hn⟩
      exact ⟨⟨s, hnil, .inl rfl, hspelled⟩, hn⟩
    · rintro ⟨⟨digits, -, rfl | hs, hspelled⟩, hn⟩
      · exact ⟨hspelled, hn⟩
      · exact absurd hs (hsign digits)

end PathKeeper.Text.Decimal
