import PathKeeper.Text.Utf8

/-!
# Reading back UTF-8

Every text is read back from its bytes, and nothing but texts is read. The bytes of a character
other than an ASCII one are all above the ASCII range, so a line feed among the bytes is a line feed
of the text.
-/

namespace PathKeeper.Text.Utf8

set_option autoImplicit false

/-! ## One character -/

theorem toNat_ofNat {n : Nat} (h : n < 256) : (UInt8.ofNat n).toNat = n :=
  UInt8.toNat_ofNat_of_lt h

theorem isTail_iff (b : UInt8) : isTail b = true ↔ 0x80 ≤ b.toNat ∧ b.toNat ≤ 0xBF := by
  simp [isTail, UInt8.le_iff_toNat_le]

theorem isSecondOfThree_iff (a b : UInt8) :
    isSecondOfThree a b = true ↔
      0x80 ≤ b.toNat ∧ b.toNat ≤ 0xBF ∧ (a.toNat = 0xE0 → 0xA0 ≤ b.toNat) ∧
        (a.toNat = 0xED → b.toNat ≤ 0x9F) := by
  unfold isSecondOfThree
  split
  · next ha =>
    subst ha
    simp [UInt8.le_iff_toNat_le]
    omega
  · next ha =>
    have ha : a.toNat ≠ 0xE0 := fun h => ha (UInt8.toNat_inj.mp h)
    split
    · next hb =>
      subst hb
      simp [UInt8.le_iff_toNat_le]
      omega
    · next hb =>
      have hb : a.toNat ≠ 0xED := fun h => hb (UInt8.toNat_inj.mp h)
      simp [isTail_iff, ha, hb]

theorem isSecondOfFour_iff (a b : UInt8) :
    isSecondOfFour a b = true ↔
      0x80 ≤ b.toNat ∧ b.toNat ≤ 0xBF ∧ (a.toNat = 0xF0 → 0x90 ≤ b.toNat) ∧
        (a.toNat = 0xF4 → b.toNat ≤ 0x8F) := by
  unfold isSecondOfFour
  split
  · next ha =>
    subst ha
    simp [UInt8.le_iff_toNat_le]
    omega
  · next ha =>
    have ha : a.toNat ≠ 0xF0 := fun h => ha (UInt8.toNat_inj.mp h)
    split
    · next hb =>
      subst hb
      simp [UInt8.le_iff_toNat_le]
      omega
    · next hb =>
      have hb : a.toNat ≠ 0xF4 := fun h => hb (UInt8.toNat_inj.mp h)
      simp [isTail_iff, ha, hb]

theorem decodeFrom_one {a : UInt8} (ha : a.toNat < 0x80) (i : Nat) (s : List UInt8) :
    decodeFrom i (a :: s) = andThen (Char.ofNat a.toNat) (decodeFrom (i + 1) s) := by
  have h : a < 0x80 := UInt8.lt_iff_toNat_lt.mpr ha
  rw [decodeFrom.eq_def]
  simp only [h, if_true]

theorem decodeFrom_two {a b : UInt8} (ha : 0xC2 ≤ a.toNat ∧ a.toNat ≤ 0xDF)
    (hb : isTail b = true) (i : Nat) (s : List UInt8) :
    decodeFrom i (a :: b :: s) = andThen (ofTwo a b) (decodeFrom (i + 2) s) := by
  have h : ¬ a < 0x80 := by
    simp [UInt8.lt_iff_toNat_lt]
    omega
  have h2 : 0xC2 ≤ a ∧ a ≤ 0xDF := by simpa [UInt8.le_iff_toNat_le] using ha
  rw [decodeFrom.eq_def]
  simp only [h, h2, hb, and_self, if_true, if_false]

theorem decodeFrom_three {a b c : UInt8} (ha : 0xE0 ≤ a.toNat ∧ a.toNat ≤ 0xEF)
    (hb : isSecondOfThree a b = true) (hc : isTail c = true) (i : Nat) (s : List UInt8) :
    decodeFrom i (a :: b :: c :: s) = andThen (ofThree a b c) (decodeFrom (i + 3) s) := by
  have h : ¬ a < 0x80 := by
    simp [UInt8.lt_iff_toNat_lt]
    omega
  have h2 : ¬ (0xC2 ≤ a ∧ a ≤ 0xDF) := by
    simp [UInt8.le_iff_toNat_le]
    omega
  have h3 : 0xE0 ≤ a ∧ a ≤ 0xEF := by simpa [UInt8.le_iff_toNat_le] using ha
  rw [decodeFrom.eq_def]
  simp only [h, h2, h3, hb, hc, and_self, if_true, if_false]

theorem decodeFrom_four {a b c d : UInt8} (ha : 0xF0 ≤ a.toNat ∧ a.toNat ≤ 0xF4)
    (hb : isSecondOfFour a b = true) (hc : isTail c = true) (hd : isTail d = true) (i : Nat)
    (s : List UInt8) :
    decodeFrom i (a :: b :: c :: d :: s) = andThen (ofFour a b c d) (decodeFrom (i + 4) s) := by
  have h : ¬ a < 0x80 := by
    simp [UInt8.lt_iff_toNat_lt]
    omega
  have h2 : ¬ (0xC2 ≤ a ∧ a ≤ 0xDF) := by
    simp [UInt8.le_iff_toNat_le]
    omega
  have h3 : ¬ (0xE0 ≤ a ∧ a ≤ 0xEF) := by
    simp [UInt8.le_iff_toNat_le]
    omega
  have h4 : 0xF0 ≤ a ∧ a ≤ 0xF4 := by simpa [UInt8.le_iff_toNat_le] using ha
  rw [decodeFrom.eq_def]
  simp only [h, h2, h3, h4, hb, hc, hd, and_self, if_true, if_false]

/-- The code points of characters leave out the surrogates. -/
theorem toNat_char_valid (c : Char) : c.toNat < 0xD800 ∨ 0xDFFF < c.toNat ∧ c.toNat < 0x110000 :=
  c.valid

theorem decodeFrom_encodeChar (c : Char) (i : Nat) (s : List UInt8) :
    ∃ j, decodeFrom i (String.utf8EncodeChar c ++ s) = andThen c (decodeFrom j s) := by
  have hvalid := toNat_char_valid c
  have hc : Char.ofNat c.toNat = c := Char.ofNat_toNat c
  generalize hv : c.toNat = v at hvalid hc
  have hval : c.val.toNat = v := hv
  simp only [String.utf8EncodeChar, hval]
  split
  · have ha : (UInt8.ofNat v).toNat = v := toNat_ofNat (by omega)
    refine ⟨i + 1, ?_⟩
    rw [List.singleton_append, decodeFrom_one (by omega), ha, hc]
  split
  · have ha : (UInt8.ofNat (v / 64 % 0x20 + 0xc0)).toNat = v / 64 % 0x20 + 0xc0 :=
      toNat_ofNat (by omega)
    have hb : (UInt8.ofNat (v % 0x40 + 0x80)).toNat = v % 0x40 + 0x80 :=
      toNat_ofNat (by omega)
    refine ⟨i + 2, ?_⟩
    rw [List.cons_append, List.singleton_append, decodeFrom_two (by omega)
      ((isTail_iff _).mpr (by omega)), ofTwo, low, ha, hb]
    have hsum : (v / 64 % 0x20 + 0xc0) % 32 * 64 + (v % 0x40 + 0x80) % 64 = v := by omega
    rw [hsum, hc]
  split
  · have ha : (UInt8.ofNat (v / 4096 % 0x10 + 0xe0)).toNat = v / 4096 % 0x10 + 0xe0 :=
      toNat_ofNat (by omega)
    have hb : (UInt8.ofNat (v / 64 % 0x40 + 0x80)).toNat = v / 64 % 0x40 + 0x80 :=
      toNat_ofNat (by omega)
    have hd : (UInt8.ofNat (v % 0x40 + 0x80)).toNat = v % 0x40 + 0x80 :=
      toNat_ofNat (by omega)
    refine ⟨i + 3, ?_⟩
    rw [List.cons_append, List.cons_append, List.singleton_append, decodeFrom_three (by omega)
      ((isSecondOfThree_iff _ _).mpr (by omega)) ((isTail_iff _).mpr (by omega)), ofThree, low, low,
      ha, hb, hd]
    have hsum : (v / 4096 % 0x10 + 0xe0) % 16 * 4096 + (v / 64 % 0x40 + 0x80) % 64 * 64 +
        (v % 0x40 + 0x80) % 64 = v := by omega
    rw [hsum, hc]
  · have ha : (UInt8.ofNat (v / 262144 % 0x08 + 0xf0)).toNat = v / 262144 % 0x08 + 0xf0 :=
      toNat_ofNat (by omega)
    have hb : (UInt8.ofNat (v / 4096 % 0x40 + 0x80)).toNat = v / 4096 % 0x40 + 0x80 :=
      toNat_ofNat (by omega)
    have hd : (UInt8.ofNat (v / 64 % 0x40 + 0x80)).toNat = v / 64 % 0x40 + 0x80 :=
      toNat_ofNat (by omega)
    have he : (UInt8.ofNat (v % 0x40 + 0x80)).toNat = v % 0x40 + 0x80 :=
      toNat_ofNat (by omega)
    refine ⟨i + 4, ?_⟩
    rw [List.cons_append, List.cons_append, List.cons_append, List.singleton_append,
      decodeFrom_four (by omega) ((isSecondOfFour_iff _ _).mpr (by omega))
      ((isTail_iff _).mpr (by omega)) ((isTail_iff _).mpr (by omega)), ofFour, low, low, low, ha,
      hb, hd, he]
    have hsum : (v / 262144 % 0x08 + 0xf0) % 8 * 262144 + (v / 4096 % 0x40 + 0x80) % 64 * 4096 +
        (v / 64 % 0x40 + 0x80) % 64 * 64 + (v % 0x40 + 0x80) % 64 = v := by omega
    rw [hsum, hc]

/-! ## Texts -/

theorem decodeFrom_encode (s : List Char) (i : Nat) : decodeFrom i (encode s) = .ok s := by
  induction s generalizing i with
  | nil => rfl
  | cons c s ih =>
    obtain ⟨j, hj⟩ := decodeFrom_encodeChar c i (encode s)
    have hcons : encode (c :: s) = String.utf8EncodeChar c ++ encode s := rfl
    rw [hcons, hj, ih j]
    rfl

@[simp] theorem decode_encode (s : List Char) : decode (encode s) = .ok s := decodeFrom_encode s 0

/-! ## Only texts -/

theorem toNat_char_ofNat {n : Nat} (h : n < 0xD800 ∨ 0xDFFF < n ∧ n < 0x110000) :
    (Char.ofNat n).val.toNat = n := by
  have hvalid : n.isValidChar := h
  rw [Char.ofNat, dif_pos hvalid]
  rfl

theorem ofNat_eq {n : Nat} {b : UInt8} (h : n = b.toNat) : UInt8.ofNat n = b := by
  rw [h, UInt8.ofNat_toNat]

theorem utf8EncodeChar_ofNat {a : UInt8} (ha : a.toNat < 0x80) :
    String.utf8EncodeChar (Char.ofNat a.toNat) = [a] := by
  simp only [String.utf8EncodeChar, toNat_char_ofNat (n := a.toNat) (by omega)]
  rw [if_pos (by omega), UInt8.ofNat_toNat]

theorem utf8EncodeChar_ofTwo {a b : UInt8} (ha : 0xC2 ≤ a.toNat ∧ a.toNat ≤ 0xDF)
    (hb : isTail b = true) : String.utf8EncodeChar (ofTwo a b) = [a, b] := by
  rw [isTail_iff] at hb
  have hn : (ofTwo a b).val.toNat = a.toNat % 32 * 64 + b.toNat % 64 := by
    rw [ofTwo, low]
    exact toNat_char_ofNat (by omega)
  simp only [String.utf8EncodeChar, hn]
  rw [if_neg (by omega), if_pos (by omega), ofNat_eq (b := a) (by omega),
    ofNat_eq (b := b) (by omega)]

theorem utf8EncodeChar_ofThree {a b c : UInt8} (ha : 0xE0 ≤ a.toNat ∧ a.toNat ≤ 0xEF)
    (hb : isSecondOfThree a b = true) (hc : isTail c = true) :
    String.utf8EncodeChar (ofThree a b c) = [a, b, c] := by
  rw [isSecondOfThree_iff] at hb
  rw [isTail_iff] at hc
  have hn : (ofThree a b c).val.toNat =
      a.toNat % 16 * 4096 + b.toNat % 64 * 64 + c.toNat % 64 := by
    rw [ofThree, low, low]
    exact toNat_char_ofNat (by omega)
  simp only [String.utf8EncodeChar, hn]
  rw [if_neg (by omega), if_neg (by omega), if_pos (by omega), ofNat_eq (b := a) (by omega),
    ofNat_eq (b := b) (by omega), ofNat_eq (b := c) (by omega)]

theorem utf8EncodeChar_ofFour {a b c d : UInt8} (ha : 0xF0 ≤ a.toNat ∧ a.toNat ≤ 0xF4)
    (hb : isSecondOfFour a b = true) (hc : isTail c = true) (hd : isTail d = true) :
    String.utf8EncodeChar (ofFour a b c d) = [a, b, c, d] := by
  rw [isSecondOfFour_iff] at hb
  rw [isTail_iff] at hc hd
  have hn : (ofFour a b c d).val.toNat =
      a.toNat % 8 * 262144 + b.toNat % 64 * 4096 + c.toNat % 64 * 64 + d.toNat % 64 := by
    rw [ofFour, low, low, low]
    exact toNat_char_ofNat (by omega)
  simp only [String.utf8EncodeChar, hn]
  rw [if_neg (by omega), if_neg (by omega), if_neg (by omega), ofNat_eq (b := a) (by omega),
    ofNat_eq (b := b) (by omega), ofNat_eq (b := c) (by omega), ofNat_eq (b := d) (by omega)]

/-- What has been read behind a character, and the bytes of both. -/
theorem encode_of_andThen {c : Char} {rest : Except Fault (List Char)} {bytes : List UInt8}
    (hrest : ∀ s, rest = .ok s → encode s = bytes) {s : List Char} (h : andThen c rest = .ok s) :
    encode s = String.utf8EncodeChar c ++ bytes := by
  cases rest with
  | error fault => cases h
  | ok t =>
    cases h
    rw [← hrest t rfl]
    rfl

theorem encode_of_decodeFrom {i : Nat} {bytes : List UInt8} {s : List Char}
    (h : decodeFrom i bytes = .ok s) : encode s = bytes := by
  fun_induction decodeFrom i bytes generalizing s with
  | case1 =>
    cases h
    rfl
  | case2 i a rest ha ih =>
    have ha : a.toNat < 0x80 := UInt8.lt_iff_toNat_lt.mp ha
    rw [encode_of_andThen (fun _ => ih) h, utf8EncodeChar_ofNat ha]
    rfl
  | case4 i a ha ha2 b rest hb ih =>
    have ha2 : 0xC2 ≤ a.toNat ∧ a.toNat ≤ 0xDF := by
      simpa [UInt8.le_iff_toNat_le] using ha2
    rw [encode_of_andThen (fun _ => ih) h, utf8EncodeChar_ofTwo ha2 hb]
    rfl
  | case8 i a ha ha2 ha3 b hb c rest hc ih =>
    have ha3 : 0xE0 ≤ a.toNat ∧ a.toNat ≤ 0xEF := by
      simpa [UInt8.le_iff_toNat_le] using ha3
    rw [encode_of_andThen (fun _ => ih) h, utf8EncodeChar_ofThree ha3 hb hc]
    rfl
  | case14 i a ha ha2 ha3 ha4 b hb c hc d rest hd ih =>
    have ha4 : 0xF0 ≤ a.toNat ∧ a.toNat ≤ 0xF4 := by
      simpa [UInt8.le_iff_toNat_le] using ha4
    rw [encode_of_andThen (fun _ => ih) h, utf8EncodeChar_ofFour ha4 hb hc hd]
    rfl
  | _ => cases h

/-- Texts are all that is read, each from its own bytes. -/
theorem decode_eq_ok_iff {bytes : List UInt8} {s : List Char} :
    decode bytes = .ok s ↔ bytes = encode s := by
  constructor
  · intro h
    exact (encode_of_decodeFrom h).symm
  · rintro rfl
    exact decode_encode s

/-! ## Line feeds -/

theorem ne_ofNat_of_le {n : Nat} (h : 0x80 ≤ n) (hn : n < 256) : 10 ≠ UInt8.ofNat n := by
  intro heq
  have hnat := congrArg UInt8.toNat heq
  rw [toNat_ofNat hn] at hnat
  have hten : (10 : UInt8).toNat = 10 := rfl
  omega

/-- A line feed among the bytes of a character is the character. -/
theorem mem_encodeChar_ten {c : Char} (h : 10 ∈ String.utf8EncodeChar c) : c = '\n' := by
  have hvalid := toNat_char_valid c
  have hval : c.val.toNat = c.toNat := rfl
  simp only [String.utf8EncodeChar, hval] at h
  split at h
  · have hnat := congrArg UInt8.toNat (List.mem_singleton.mp h)
    rw [toNat_ofNat (by omega)] at hnat
    rw [← Char.ofNat_toNat c, ← hnat]
    rfl
  split at h
  · simp only [List.mem_cons, List.not_mem_nil, or_false] at h
    rcases h with h | h <;> exact absurd h (ne_ofNat_of_le (by omega) (by omega))
  split at h
  · simp only [List.mem_cons, List.not_mem_nil, or_false] at h
    rcases h with h | h | h <;> exact absurd h (ne_ofNat_of_le (by omega) (by omega))
  · simp only [List.mem_cons, List.not_mem_nil, or_false] at h
    rcases h with h | h | h | h <;> exact absurd h (ne_ofNat_of_le (by omega) (by omega))

theorem not_mem_encode_ten {s : List Char} (h : '\n' ∉ s) : 10 ∉ encode s := by
  intro hmem
  obtain ⟨c, hc, hten⟩ := List.mem_flatMap.mp hmem
  exact h (mem_encodeChar_ten hten ▸ hc)

end PathKeeper.Text.Utf8
