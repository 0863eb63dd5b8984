import PathKeeper.Proofs.Address.Grammar
import PathKeeper.Text.Blank

/-!
# The alphabet of addresses

The texts of addresses consist of hexadecimal digits, colons and dots, and none is empty.
-/

namespace PathKeeper

set_option autoImplicit false

open Text

/-- Whether a character may stand in the text of an address. -/
def isAddressChar (c : Char) : Bool := (hexDigit? c).isSome || c == ':' || c == '.'

def InAlphabet (s : List Char) : Prop := ∀ c ∈ s, isAddressChar c = true

theorem isAddressChar_of_hexDigit? {c : Char} (h : (hexDigit? c).isSome) :
    isAddressChar c = true := by
  simp [isAddressChar, h]

theorem toNat_of_hexDigit? {c : Char} (h : (hexDigit? c).isSome) :
    0x30 ≤ c.toNat ∧ c.toNat ≤ 0x66 := by
  have h0 : ('0' : Char).toNat = 0x30 := rfl
  have h9 : ('9' : Char).toNat = 0x39 := rfl
  have ha : ('a' : Char).toNat = 0x61 := rfl
  have hf : ('f' : Char).toNat = 0x66 := rfl
  have hA : ('A' : Char).toNat = 0x41 := rfl
  have hF : ('F' : Char).toNat = 0x46 := rfl
  unfold hexDigit? at h
  simp only [char_le_iff, h0, h9, ha, hf, hA, hF] at h
  split at h
  · omega
  split at h
  · omega
  split at h
  · omega
  · cases h

/-- Blanks are control characters, spaces or beyond ASCII. -/
theorem isBlank_of_isAddressChar {c : Char} (h : isAddressChar c = true) : isBlank c = false := by
  simp only [isAddressChar, Bool.or_eq_true, beq_iff_eq] at h
  rcases h with (hdigit | rfl) | rfl
  · obtain ⟨hleast, hmost⟩ := toNat_of_hexDigit? hdigit
    simp only [isBlank, Bool.or_eq_false_iff, Bool.and_eq_false_iff, decide_eq_false_iff_not,
      beq_eq_false_iff_ne]
    omega
  · rfl
  · rfl

theorem IsGroup.inAlphabet {s : List Char} {g : UInt16} (h : IsGroup s g) : InAlphabet s :=
  fun c hc => isAddressChar_of_hexDigit? (h.isSome_hexDigit? c hc)

namespace V4

theorem inAlphabet_print (x : V4) : InAlphabet x.print := by
  intro c hc
  rcases mem_joined hc with hdot | ⟨part, hpart, hmem⟩
  · rw [List.mem_singleton.mp hdot]
    rfl
  · obtain ⟨octet, -, rfl⟩ := List.mem_map.mp hpart
    obtain ⟨d, hd, rfl⟩ := exists_digit_of_mem_toDigits (by decide) hmem
    exact isAddressChar_of_hexDigit? (by rw [hexDigit?_digitChar d (by omega)]; rfl)

end V4

theorem InAlphabet.colon {s t : List Char} (hs : InAlphabet s) (ht : InAlphabet t) :
    InAlphabet (s ++ ':' :: t) :=
  List.forall_mem_append.mpr ⟨hs, List.forall_mem_cons.mpr ⟨rfl, ht⟩⟩

theorem Groups.inAlphabet {dotted : Bool} {s : List Char} {gs : List UInt16}
    (h : Groups dotted s gs) : InAlphabet s := by
  induction h with
  | one hgroup => exact hgroup.inAlphabet
  | tail _ x => exact x.inAlphabet_print
  | cons hgroup _ ih => exact hgroup.inAlphabet.colon ih

theorem Side.inAlphabet {dotted : Bool} {s : List Char} {gs : List UInt16}
    (h : Side dotted s gs) : InAlphabet s := by
  cases h with
  | empty => exact List.forall_mem_nil _
  | groups hgroups => exact hgroups.inAlphabet

theorem V6.Spells.inAlphabet {s : List Char} {x : V6} (h : V6.Spells s x) : InAlphabet s := by
  cases h with
  | whole hwhole => exact hwhole.inAlphabet
  | gap hfront hback =>
    have hbehind : InAlphabet ([] ++ ':' :: _) := .colon (List.forall_mem_nil _) hback.inAlphabet
    exact hfront.inAlphabet.colon hbehind

namespace Address.Spells

variable {s : List Char} {x : Address}

theorem inAlphabet (h : Spells s x) : InAlphabet s := by
  cases h with
  | v4 y => exact y.inAlphabet_print
  | v6 hy => exact hy.inAlphabet

theorem ne_nil (h : Spells s x) : s ≠ [] := by
  cases h with
  | v4 y => exact List.ne_nil_of_mem y.dot_mem_print
  | v6 hy => exact List.ne_nil_of_mem hy.colon_mem

end Address.Spells

end PathKeeper
