import PathKeeper.Proofs.Text.Digits
import PathKeeper.Text.Pieces
import PathKeeper.Text.Utf8

/-!
# ASCII texts

A text of ASCII characters has one byte for each of them, so its bytes and its characters may be
counted and cut alike.
-/

namespace PathKeeper.Text

set_option autoImplicit false

def IsAscii (s : List Char) : Prop := ∀ c ∈ s, c.toNat < 0x80

namespace IsAscii

variable {s t : List Char}

theorem cons {c : Char} (hc : c.toNat < 0x80) (hs : IsAscii s) : IsAscii (c :: s) :=
  List.forall_mem_cons.mpr ⟨hc, hs⟩

theorem append (hs : IsAscii s) (ht : IsAscii t) : IsAscii (s ++ t) :=
  List.forall_mem_append.mpr ⟨hs, ht⟩

theorem flatMap {α : Type} {f : α → List Char} {items : List α} (h : ∀ x ∈ items, IsAscii (f x)) :
    IsAscii (items.flatMap f) := by
  intro c hc
  obtain ⟨x, hx, hmem⟩ := List.mem_flatMap.mp hc
  exact h x hx c hmem

theorem joined {parts : List (List Char)} (hs : IsAscii s) (h : ∀ part ∈ parts, IsAscii part) :
    IsAscii (joined s parts) := by
  intro c hc
  rcases mem_joined hc with hsep | ⟨part, hpart, hmem⟩
  · exact hs c hsep
  · exact h part hpart c hmem

theorem toDigits {base : Nat} (hbase : 1 < base) (hmost : base ≤ 16) (n : Nat) :
    IsAscii (Nat.toDigits base n) := by
  have hdigits : ∀ d < 16, d.digitChar.toNat < 0x80 := by decide
  intro c hc
  obtain ⟨d, hd, rfl⟩ := exists_digit_of_mem_toDigits hbase hc
  exact hdigits d (by omega)

end IsAscii

theorem utf8EncodeChar_of_ascii {c : Char} (h : c.toNat < 0x80) :
    String.utf8EncodeChar c = [c.toUInt8] := by
  have hval : c.val.toNat = c.toNat := rfl
  simp only [String.utf8EncodeChar, hval]
  rw [if_pos (by omega)]
  rfl

theorem encode_of_isAscii {s : List Char} (h : IsAscii s) :
    Utf8.encode s = s.map Char.toUInt8 := by
  induction s with
  | nil => rfl
  | cons c s ih =>
    obtain ⟨hc, hs⟩ := List.forall_mem_cons.mp h
    have hcons : Utf8.encode (c :: s) = String.utf8EncodeChar c ++ Utf8.encode s := rfl
    rw [hcons, ih hs, utf8EncodeChar_of_ascii hc]
    rfl

end PathKeeper.Text
