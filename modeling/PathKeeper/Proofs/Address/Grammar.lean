import PathKeeper.Address.Printer
import PathKeeper.Address.Reader
import PathKeeper.Proofs.Text.Digits

/-!
# The grammar of addresses

Which texts are addresses, as a relation between texts and addresses, and that the reader accepts
these and no others. An address of version 4 has one text. One of version 6 has many: digits of
either case, groups with zeros in front, a gap in any place where there are zeros, and a tail in
dotted form.
-/

namespace PathKeeper

set_option autoImplicit false

open Text

/-! ## Version 4 -/

theorem readOctet_eq_some_iff {s : List Char} {octet : UInt8} :
    readOctet s = some octet ↔ s = Nat.toDigits 10 octet.toNat := by
  constructor
  · intro h
    unfold readOctet at h
    split at h
    · cases h
    · next hform =>
      simp only [not_or, not_and, Decidable.not_not] at hform
      obtain ⟨hne, -, hzero⟩ := hform
      split at h
      · next n hn =>
        split at h
        · next hless =>
          cases h
          rw [UInt8.toNat_ofNat_of_lt' hless]
          exact eq_toDigits_of_spelled? hn hne hzero
        · cases h
      · cases h
  · rintro rfl
    have hless : octet.toNat < 256 := octet.toNat_lt
    have hlength : (Nat.toDigits 10 octet.toNat).length ≤ 3 :=
      (Nat.length_toDigits_le_iff (by decide) (by decide)).mpr (by omega)
    have hhead : ¬ ((Nat.toDigits 10 octet.toNat).head? = some '0' ∧
        (Nat.toDigits 10 octet.toNat).length ≠ 1) := by
      rintro ⟨hzero, hone⟩
      by_cases hoctet : octet.toNat = 0
      · rw [hoctet] at hone
        exact hone rfl
      · exact head?_toDigits_ne_zero (by decide) (by decide) hoctet hzero
    rw [readOctet, if_neg, spelled?_toDigits (by decide) digit?_digitChar]
    · simp [hless]
    · rintro (hnil | hlong | hzero)
      · exact Nat.toDigits_ne_nil hnil
      · omega
      · exact hhead hzero

theorem not_mem_toDigits {base : Nat} {c : Char} (hbase : 1 < base)
    (h : ∀ d < base, c ≠ d.digitChar) (n : Nat) : c ∉ Nat.toDigits base n := by
  intro hmem
  obtain ⟨d, hd, rfl⟩ := exists_digit_of_mem_toDigits hbase hmem
  exact h d hd rfl

namespace V4

theorem read_print (x : V4) : V4.read x.print = some x := by
  have hpieces : pieces '.' x.print =
      [x.a, x.b, x.c, x.d].map fun octet => Nat.toDigits 10 octet.toNat := by
    refine pieces_joined (by simp) ?_
    intro part hpart
    obtain ⟨octet, -, rfl⟩ := List.mem_map.mp hpart
    exact not_mem_toDigits (by decide) (by decide) _
  have hoctet (octet : UInt8) : readOctet (Nat.toDigits 10 octet.toNat) = some octet :=
    readOctet_eq_some_iff.mpr rfl
  simp only [V4.read, hpieces, List.map_cons, List.map_nil, hoctet]

/-- The canonical text is the only one. -/
theorem read_eq_some_iff {s : List Char} {x : V4} : V4.read s = some x ↔ s = x.print := by
  constructor
  · intro h
    unfold V4.read at h
    split at h
    · next p q r t hpieces =>
      split at h
      · next a b c d hp hq hr ht =>
        cases h
        rw [← joined_pieces '.' s, hpieces, readOctet_eq_some_iff.mp hp,
          readOctet_eq_some_iff.mp hq, readOctet_eq_some_iff.mp hr, readOctet_eq_some_iff.mp ht]
        rfl
      · cases h
    · cases h
  · rintro rfl
    exact x.read_print

theorem colon_not_mem_print (x : V4) : ':' ∉ x.print := by
  intro hmem
  rcases mem_joined hmem with hdot | ⟨part, hpart, hcolon⟩
  · exact absurd hdot (by decide)
  · obtain ⟨octet, -, rfl⟩ := List.mem_map.mp hpart
    exact not_mem_toDigits (by decide) (by decide) _ hcolon

theorem dot_mem_print (x : V4) : '.' ∈ x.print := by
  simp [print, joined_cons_cons]

end V4

/-! ## Groups -/

/-- One to four hexadecimal digits that spell a group. -/
structure IsGroup (s : List Char) (g : UInt16) : Prop where
  ne_nil : s ≠ []
  length_le : s.length ≤ 4
  spelled : spelled? hexDigit? 16 0 s = some g.toNat

theorem readGroup_eq_some_iff {s : List Char} {g : UInt16} :
    readGroup s = some g ↔ IsGroup s g := by
  constructor
  · intro h
    unfold readGroup at h
    split at h
    · cases h
    · next hform =>
      simp only [not_or, Nat.not_lt] at hform
      obtain ⟨n, hn, rfl⟩ := Option.map_eq_some_iff.mp h
      have hless : n < 65536 := calc
        n < (0 + 1) * 16 ^ s.length := spelled?_lt (fun c d => hexDigit?_lt) hn
        _ = 16 ^ s.length := by rw [Nat.zero_add, Nat.one_mul]
        _ ≤ 16 ^ 4 := Nat.pow_le_pow_right (by decide) hform.2
      refine ⟨hform.1, hform.2, ?_⟩
      rw [hn, UInt16.toNat_ofNat_of_lt' hless]
  · rintro ⟨hne, hlength, hspelled⟩
    rw [readGroup, if_neg, hspelled, Option.map_some, UInt16.ofNat_toNat]
    rintro (hnil | hlong)
    · exact hne hnil
    · omega

theorem IsGroup.isSome_hexDigit? {s : List Char} {g : UInt16} (h : IsGroup s g) :
    ∀ c ∈ s, (hexDigit? c).isSome := isSome_of_spelled? h.spelled

theorem IsGroup.colon_not_mem {s : List Char} {g : UInt16} (h : IsGroup s g) : ':' ∉ s :=
  fun hmem => absurd (h.isSome_hexDigit? ':' hmem) (by decide)

/-- A text with a dot is no group. -/
theorem readGroup_print (x : V4) : readGroup x.print = none := by
  cases hread : readGroup x.print with
  | none => rfl
  | some g =>
    have hgroup := readGroup_eq_some_iff.mp hread
    exact absurd (hgroup.isSome_hexDigit? '.' x.dot_mem_print) (by decide)

/-- Groups with colons between them. The last two may be an address of version 4 if `dotted`. -/
inductive Groups (dotted : Bool) : List Char → List UInt16 → Prop where
  | one {s : List Char} {g : UInt16} (h : IsGroup s g) : Groups dotted s [g]
  | tail (h : dotted = true) (x : V4) : Groups dotted x.print x.groups
  | cons {s t : List Char} {g : UInt16} {gs : List UInt16} (h : IsGroup s g)
      (hrest : Groups dotted t gs) : Groups dotted (s ++ ':' :: t) (g :: gs)

/-- The same, or nothing. -/
inductive Side (dotted : Bool) : List Char → List UInt16 → Prop where
  | empty : Side dotted [] []
  | groups {s : List Char} {gs : List UInt16} (h : Groups dotted s gs) : Side dotted s gs

namespace Groups

variable {dotted : Bool} {s : List Char} {gs : List UInt16}

theorem of_readGroups {parts : List (List Char)} (h : readGroups dotted parts = some gs)
    (hne : parts ≠ []) : Groups dotted (joined [':'] parts) gs := by
  fun_induction readGroups dotted parts generalizing gs with
  | case1 => exact absurd rfl hne
  | case2 piece g hgroup =>
    cases h
    exact .one (readGroup_eq_some_iff.mp hgroup)
  | case3 piece hnone hdotted =>
    obtain ⟨x, hx, rfl⟩ := Option.map_eq_some_iff.mp h
    rw [joined_singleton, V4.read_eq_some_iff.mp hx]
    exact .tail hdotted x
  | case4 => cases h
  | case5 piece rest hrest g gs hgroups hgroup ih =>
    cases h
    obtain ⟨other, others, rfl⟩ := List.exists_cons_of_ne_nil hrest
    have hcons := Groups.cons (readGroup_eq_some_iff.mp hgroup) (ih hgroups hrest)
    rwa [joined_cons_cons, List.append_assoc]
  | case6 => cases h

theorem ne_nil (h : Groups dotted s gs) : s ≠ [] := by
  cases h with
  | one hgroup => exact hgroup.ne_nil
  | tail _ x => exact List.ne_nil_of_mem x.dot_mem_print
  | cons hgroup hrest => simp

theorem readGroups_pieces (h : Groups dotted s gs) :
    readGroups dotted (pieces ':' s) = some gs := by
  induction h with
  | one hgroup =>
    rw [pieces_of_not_mem hgroup.colon_not_mem]
    simp only [readGroups, readGroup_eq_some_iff.mpr hgroup]
  | tail hdotted x =>
    rw [pieces_of_not_mem x.colon_not_mem_print]
    simp only [readGroups, readGroup_print, hdotted, if_true, x.read_print, Option.map_some]
  | @cons s t g gs hgroup hrest ih =>
    obtain ⟨piece, rest, hcut⟩ := List.exists_cons_of_ne_nil (pieces_ne_nil ':' t)
    rw [hcut] at ih
    rw [pieces_append_cons hgroup.colon_not_mem, hcut]
    simp only [readGroups, readGroup_eq_some_iff.mpr hgroup, ih]

end Groups

theorem readSide_eq_some_iff {dotted : Bool} {s : List Char} {gs : List UInt16} :
    readSide dotted s = some gs ↔ Side dotted s gs := by
  constructor
  · intro h
    unfold readSide at h
    split at h
    · next hs =>
      cases h
      rw [hs]
      exact .empty
    · have hgroups := Groups.of_readGroups h (pieces_ne_nil ':' s)
      rw [joined_pieces] at hgroups
      exact .groups hgroups
  · rintro (_ | hgroups)
    · rfl
    · rw [readSide, if_neg hgroups.ne_nil]
      exact hgroups.readGroups_pieces

theorem Side.groups_of_ne_nil {dotted : Bool} {s : List Char} {gs : List UInt16}
    (h : Side dotted s gs) (hne : gs ≠ []) : Groups dotted s gs := by
  cases h with
  | empty => exact absurd rfl hne
  | groups hgroups => exact hgroups

/-! ## The gap -/

/-- What has been found behind a front part. -/
def behind (front : List Char) (cut : Option (List Char × List Char)) :
    Option (List Char × List Char) :=
  cut.map fun (before, after) => (front ++ before, after)

theorem behind_nil (cut : Option (List Char × List Char)) : behind [] cut = cut := by
  cases cut <;> rfl

theorem behind_append (a b : List Char) (cut : Option (List Char × List Char)) :
    behind (a ++ b) cut = behind a (behind b cut) := by
  cases cut with
  | none => rfl
  | some parts => simp [behind]

theorem cutAtGap_cons {c : Char} {s : List Char} (h : c = ':' → s.head? ≠ some ':') :
    cutAtGap (c :: s) = behind [c] (cutAtGap s) := by
  rw [cutAtGap, if_neg fun hgap => h hgap.1 hgap.2]
  rfl

theorem cutAtGap_append_of_not_mem {a : List Char} (h : ':' ∉ a) (s : List Char) :
    cutAtGap (a ++ s) = behind a (cutAtGap s) := by
  induction a with
  | nil => exact (behind_nil _).symm
  | cons c a ih =>
    simp only [List.mem_cons, not_or] at h
    rw [List.cons_append, cutAtGap_cons fun hc => absurd hc.symm h.1, ih h.2,
      ← behind_append, List.singleton_append]

/-- Cutting at a gap takes out the gap and nothing else. -/
theorem eq_of_cutAtGap {s front back : List Char} (h : cutAtGap s = some (front, back)) :
    s = front ++ ':' :: ':' :: back := by
  induction s generalizing front with
  | nil => cases h
  | cons c s ih =>
    unfold cutAtGap at h
    split at h
    · next hgap =>
      obtain ⟨rest, hrest⟩ := List.head?_eq_some_iff.mp hgap.2
      cases h
      rw [hgap.1, hrest]
      rfl
    · obtain ⟨⟨before, after⟩, hcut, hparts⟩ := Option.map_eq_some_iff.mp h
      cases hparts
      rw [ih hcut]
      rfl

namespace Groups

variable {dotted : Bool} {s : List Char} {gs : List UInt16}

/-- Groups begin with a digit. -/
theorem head?_ne_colon (h : Groups dotted s gs) (rest : List Char) :
    (s ++ rest).head? ≠ some ':' := by
  have hfront : ∀ {a : List Char}, a ≠ [] → ':' ∉ a → ∀ rest, (a ++ rest).head? ≠ some ':' := by
    intro a hne hcolon rest hhead
    obtain ⟨c, a, rfl⟩ := List.exists_cons_of_ne_nil hne
    cases hhead
    exact hcolon List.mem_cons_self
  cases h with
  | one hgroup => exact hfront hgroup.ne_nil hgroup.colon_not_mem rest
  | tail _ x =>
    exact hfront (List.ne_nil_of_mem x.dot_mem_print) x.colon_not_mem_print rest
  | cons hgroup hrest =>
    rw [List.append_assoc]
    exact hfront hgroup.ne_nil hgroup.colon_not_mem _

/-- There is no gap among groups. -/
theorem cutAtGap_append (h : Groups dotted s gs) (rest : List Char) :
    cutAtGap (s ++ rest) = behind s (cutAtGap rest) := by
  induction h with
  | one hgroup => exact cutAtGap_append_of_not_mem hgroup.colon_not_mem rest
  | tail _ x => exact cutAtGap_append_of_not_mem x.colon_not_mem_print rest
  | @cons s t g gs hgroup hrest ih =>
    have hsplit : s ++ ':' :: t = s ++ ([':'] ++ t) := rfl
    rw [List.append_assoc, cutAtGap_append_of_not_mem hgroup.colon_not_mem, List.cons_append,
      cutAtGap_cons fun _ => hrest.head?_ne_colon rest, ih, hsplit, behind_append, behind_append]

end Groups

theorem cutAtGap_gap (s : List Char) : cutAtGap (':' :: ':' :: s) = some ([], s) := rfl

theorem Side.cutAtGap_gap {dotted : Bool} {front : List Char} {gs : List UInt16}
    (h : Side dotted front gs) (back : List Char) :
    cutAtGap (front ++ ':' :: ':' :: back) = some (front, back) := by
  cases h with
  | empty => rfl
  | groups hgroups =>
    rw [hgroups.cutAtGap_append, PathKeeper.cutAtGap_gap]
    simp [behind]

/-! ## Version 6 -/

namespace V6

theorem ofList?_eq_some_iff {groups : List UInt16} {x : V6} :
    ofList? groups = some x ↔ x.groups = groups := by
  constructor
  · intro h
    unfold ofList? at h
    split at h
    · cases h
      rfl
    · cases h
  · rintro rfl
    exact ofList?_groups x

theorem groups_ne_nil (x : V6) : x.groups ≠ [] :=
  List.ne_nil_of_length_eq_add_one x.length_groups

/-- A text of an address: all of its groups, or those around a gap that stands for zeros. -/
inductive Spells : List Char → V6 → Prop where
  | whole {s : List Char} {x : V6} (h : Groups true s x.groups) : Spells s x
  | gap {front back : List Char} {gs hs : List UInt16} {x : V6} (hfront : Side false front gs)
      (hback : Side true back hs) (hroom : gs.length + hs.length < 8)
      (hgroups : x.groups = gs ++ List.replicate (8 - (gs.length + hs.length)) 0 ++ hs) :
      Spells (front ++ ':' :: ':' :: back) x

theorem read_eq_some_iff {s : List Char} {x : V6} : V6.read s = some x ↔ Spells s x := by
  constructor
  · intro h
    unfold V6.read at h
    split at h
    · obtain ⟨gs, hside, hgroups⟩ := Option.bind_eq_some_iff.mp h
      rw [← ofList?_eq_some_iff.mp hgroups] at hside
      exact .whole ((readSide_eq_some_iff.mp hside).groups_of_ne_nil x.groups_ne_nil)
    · next front back hcut =>
      rw [eq_of_cutAtGap hcut]
      split at h
      · next gs hs hfront hback =>
        split at h
        · next hroom =>
          exact .gap (readSide_eq_some_iff.mp hfront) (readSide_eq_some_iff.mp hback) hroom
            (ofList?_eq_some_iff.mp h)
        · cases h
      · cases h
  · rintro (hwhole | ⟨hfront, hback, hroom, hgroups⟩)
    · have hcut : cutAtGap s = none := by
        have happend := hwhole.cutAtGap_append []
        rwa [List.append_nil] at happend
      have hside : readSide true s = some x.groups := readSide_eq_some_iff.mpr (.groups hwhole)
      simp only [V6.read, hcut, hside, Option.bind_some, ofList?_groups]
    · simp only [V6.read, hfront.cutAtGap_gap, readSide_eq_some_iff.mpr hfront,
        readSide_eq_some_iff.mpr hback, if_pos hroom]
      exact ofList?_eq_some_iff.mpr hgroups

/-- What tells the versions apart. -/
theorem Spells.colon_mem {s : List Char} {x : V6} (h : Spells s x) : ':' ∈ s := by
  cases h with
  | whole hwhole =>
    have hlength := x.length_groups
    generalize x.groups = groups at hwhole hlength
    cases hwhole with
    | one => cases hlength
    | tail => cases hlength
    | cons => simp
  | gap => simp

end V6

namespace Address

inductive Spells : List Char → Address → Prop where
  | v4 (x : V4) : Spells x.print (.v4 x)
  | v6 {s : List Char} {x : V6} (h : V6.Spells s x) : Spells s (.v6 x)

theorem read_eq_some_iff {s : List Char} {x : Address} :
    Address.read s = some x ↔ Spells s x := by
  constructor
  · intro h
    unfold Address.read at h
    split at h
    · next y hy =>
      cases h
      rw [V4.read_eq_some_iff.mp hy]
      exact .v4 y
    · obtain ⟨y, hy, rfl⟩ := Option.map_eq_some_iff.mp h
      exact .v6 (V6.read_eq_some_iff.mp hy)
  · intro h
    cases h with
    | v4 y => simp only [Address.read, y.read_print]
    | @v6 s y hy =>
      have hnone : V4.read s = none := by
        cases hread : V4.read s with
        | none => rfl
        | some z =>
          have hcolon := hy.colon_mem
          rw [V4.read_eq_some_iff.mp hread] at hcolon
          exact absurd hcolon z.colon_not_mem_print
      simp only [Address.read, hnone, V6.read_eq_some_iff.mpr hy, Option.map_some]

end Address

end PathKeeper
