import PathKeeper.Proofs.Json.Skip

/-!
# Reading what is spelled in any way

A string is read from any literal that spells it, a list of strings from any literals with any
blanks between the tokens, and a record from any members. A member that is no field of the record
may hold any value.
-/

namespace PathKeeper.Json

set_option autoImplicit false

open Text (hexDigit? joined spelled?)

theorem dropBlank_append {blanks : List Char} (h : AllBlank blanks) (s : List Char) :
    dropBlank (blanks ++ s) = dropBlank s :=
  List.dropWhile_append_of_pos h

theorem Spaced.dropBlank_write (x : Spaced) (rest : List Char) :
    dropBlank (x.write ++ rest) = dropBlank (x.text ++ (x.back ++ rest)) := by
  rw [Spaced.write, List.append_assoc, List.append_assoc, dropBlank_append x.front_blank]

/-! ## Strings -/

theorem spelled?_quad (a b c d : Char) :
    spelled? hexDigit? 16 0 [a, b, c, d] = hexQuad? a b c d := by
  simp only [spelled?, hexQuad?]
  rcases hexDigit? a with _ | p
  · rfl
  rcases hexDigit? b with _ | q
  · rfl
  rcases hexDigit? c with _ | r
  · rfl
  rcases hexDigit? d with _ | s
  · rfl
  simp only [Option.some.injEq]
  omega

theorem readQuad_of_isQuad {quad : List Char} {n : Nat} (h : IsQuad quad n) (s : List Char) :
    readQuad (quad ++ s) = .ok (n, s) := by
  obtain ⟨hlength, hspelled⟩ := h
  obtain ⟨a, b, c, d, rfl⟩ := List.length_eq_four.mp hlength
  rw [spelled?_quad] at hspelled
  simp only [List.cons_append, List.nil_append, readQuad, hspelled]

theorem readEscape_short {letter c : Char} (h : (letter, c) ∈ shortEscapes) (s : List Char) :
    readEscape (letter :: s) = .ok (c, s) := by
  have hu : letter ≠ 'u' := Skip.ne_u_of_mem h
  unfold readEscape
  split
  · next heq => cases heq
  · next heq => exact absurd (List.cons.inj heq).1 hu
  · next heq =>
    obtain ⟨rfl, rfl⟩ := List.cons.inj heq
    rw [Skip.unescape?_of_mem h]

theorem readEscape_quad {quad : List Char} {n : Nat} (h : IsQuad quad n)
    (hn : n < 0xD800 ∨ 0xDFFF < n) (s : List Char) :
    readEscape ('u' :: (quad ++ s)) = .ok (Char.ofNat n, s) := by
  have htrailing : isTrailing n = false := by
    simp only [isTrailing, Bool.and_eq_false_iff, decide_eq_false_iff_not]
    omega
  have hleading : isLeading n = false := by
    simp only [isLeading, Bool.and_eq_false_iff, decide_eq_false_iff_not]
    omega
  simp only [readEscape, readCodePoint, readQuad_of_isQuad h, bind, Except.bind, htrailing,
    hleading, Bool.false_eq_true, if_false]

theorem readEscape_pair {high low : List Char} {n m : Nat} (hhigh : IsQuad high n)
    (hlow : IsQuad low m) (hn : 0xD800 ≤ n ∧ n ≤ 0xDBFF) (hm : 0xDC00 ≤ m ∧ m ≤ 0xDFFF)
    (s : List Char) :
    readEscape ('u' :: (high ++ '\\' :: 'u' :: (low ++ s))) =
      .ok (Char.ofNat (0x10000 + (n - 0xD800) * 0x400 + (m - 0xDC00)), s) := by
  have hnot : isTrailing n = false := by
    simp only [isTrailing, Bool.and_eq_false_iff, decide_eq_false_iff_not]
    omega
  have hleading : isLeading n = true := by
    simp only [isLeading, Bool.and_eq_true, decide_eq_true_eq]
    omega
  have htrailing : isTrailing m = true := by
    simp only [isTrailing, Bool.and_eq_true, decide_eq_true_eq]
    omega
  simp only [readEscape, readCodePoint, readQuad_of_isQuad hhigh, bind, Except.bind, hnot, hleading,
    Bool.false_eq_true, if_false, if_true, readTrailing, readQuad_of_isQuad hlow, htrailing, ofPair]

theorem readChars_backslash {c : Char} {s rest : List Char} (h : readEscape s = .ok (c, rest))
    (bound : Nat) : readChars (bound + 1) ('\\' :: s) = withChar c (readChars bound rest) := by
  have hquote : ('\\' : Char) ≠ '"' := by decide
  simp only [readChars, if_neg hquote, if_true, h]

/-- A character is read back from any way to spell it. -/
theorem readChars_of_spellsChar {c : Char} {text : List Char} (h : SpellsChar text c) (bound : Nat)
    (s : List Char) : readChars (bound + 1) (text ++ s) = withChar c (readChars bound s) := by
  cases h with
  | plain hc =>
    obtain ⟨hlarge, hquote, hbackslash⟩ := hc
    rw [List.singleton_append, readChars, if_neg hquote, if_neg hbackslash,
      if_neg (Nat.not_lt.mpr hlarge)]
  | short hletter => exact readChars_backslash (readEscape_short hletter s) bound
  | quad hquad hn => exact readChars_backslash (readEscape_quad hquad hn s) bound
  | pair hhigh hlow hn hm =>
    simp only [List.cons_append, List.append_assoc]
    exact readChars_backslash (readEscape_pair hhigh hlow hn hm s) bound

theorem Spells.readChars {body text : List Char} (h : Spells body text) {bound : Nat}
    (hbound : text.length < bound) (rest : List Char) :
    Json.readChars bound (body ++ '"' :: rest) = .ok (text, rest) := by
  induction h generalizing bound with
  | nil =>
    obtain ⟨bound, rfl⟩ := Nat.exists_eq_add_one.mpr hbound
    rfl
  | cons hc _ ih =>
    obtain ⟨bound, rfl⟩ := Nat.exists_eq_add_one.mpr (Nat.zero_lt_of_lt hbound)
    rw [List.append_assoc, readChars_of_spellsChar hc, ih (Nat.lt_of_succ_lt_succ hbound)]
    rfl

theorem Spells.length_le {body text : List Char} (h : Spells body text) :
    text.length ≤ body.length := by
  induction h with
  | nil => exact Nat.le_refl 0
  | @cons s t text c hc _ ih =>
    have hpos : 0 < s.length := by cases hc <;> simp
    rw [List.length_cons, List.length_append]
    omega

theorem Spells.readText {body : List Char} {text : String} (h : Spells body text.toList)
    (rest : List Char) : Json.readText (body ++ '"' :: rest) = .ok (text, rest) := by
  have hlength := h.length_le
  rw [Json.readText, h.readChars]
  · simp only [String.ofList_toList]
  · rw [List.length_append, List.length_cons]
    omega

theorem IsLiteral.readString {s : List Char} {text : String} (h : IsLiteral s text)
    (expected : Expected) : ReadsBack (Json.readString expected) s text := by
  obtain ⟨body, rfl, hspells⟩ := h
  intro rest
  rw [literal, List.cons_append, List.append_assoc, Json.readString, dropBlank_cons_of_not rfl]
  exact hspells.readText rest

theorem IsLiteral.isItem {s : List Char} {text : String} (h : IsLiteral s text) : IsItem s := by
  obtain ⟨body, rfl, -⟩ := h
  exact ⟨'"', _, rfl, rfl, by decide⟩

theorem readString_write {x : Spaced} {text : String} (h : IsLiteral x.text text)
    (expected : Expected) (rest : List Char) :
    readString expected (x.write ++ rest) = .ok (text, x.back ++ rest) := by
  have hread := h.readString expected (x.back ++ rest)
  rw [readString] at hread ⊢
  rwa [x.dropBlank_write rest]

/-! ## What is written -/

theorem isQuad_of_control {n : Nat} (h : n < 0x20) :
    IsQuad ['0', '0', hexChar (n / 16), hexChar n] n :=
  ⟨rfl, (spelled?_quad _ _ _ _).trans (hexQuad?_of_control h)⟩

theorem spellsChar_escapeChar (c : Char) : SpellsChar (escapeChar c) c := by
  unfold escapeChar
  split
  case h_8 hquote hbackslash _ _ _ _ _ =>
    split
    · next hcontrol =>
      have hspells := SpellsChar.quad (isQuad_of_control hcontrol) (.inl (by omega))
      rwa [Char.ofNat_toNat] at hspells
    · next hlarge => exact .plain ⟨Nat.le_of_not_lt hlarge, hquote, hbackslash⟩
  all_goals exact .short (by decide)

theorem spells_escaped (text : List Char) : Spells (text.flatMap escapeChar) text := by
  induction text with
  | nil => exact .nil
  | cons c text ih => exact .cons (spellsChar_escapeChar c) ih

/-- What is written of a text is a literal for it. -/
theorem isLiteral_quote (text : String) : IsLiteral (quote text) text :=
  ⟨text.toList.flatMap escapeChar, rfl, spells_escaped text.toList⟩

/-! ## Lists of strings -/

theorem nextItem_spaced {x : Spaced} (h : IsItem x.text) (first : Bool) {blanks : List Char}
    (hblanks : AllBlank blanks) (rest : List Char) :
    nextItem first (blanks ++ (separator first ++ (x.write ++ rest))) =
      .ok (some (x.text ++ (x.back ++ rest))) := by
  have hcomma : isBlank ',' = false := rfl
  have hdrop := x.dropBlank_write rest
  obtain ⟨c, s, htext, hblank, hclose⟩ := h
  rw [htext, List.cons_append] at hdrop ⊢
  rw [dropBlank_cons_of_not hblank] at hdrop
  rw [nextItem, dropBlank_append hblanks]
  cases first with
  | true => simp [separator, hdrop, hclose]
  | false => simp [separator, dropBlank_cons_of_not hcomma, hdrop, hclose]

section Items

variable {α : Type} {item : Reader α}

/-- An item of a list that is read for its value. -/
structure IsReadAs (item : Reader α) (x : Spaced) (value : α) : Prop where
  isItem : IsItem x.text
  readsBack : ReadsBack item x.text value

theorem readItems_item {x : Spaced} {value : α} (h : IsReadAs item x value) (bound : Nat)
    (first : Bool) {blanks : List Char} (hblanks : AllBlank blanks) (rest : List Char) :
    readItems item (bound + 1) first (blanks ++ (separator first ++ (x.write ++ rest))) =
      (readItems item bound false (x.back ++ rest)).map
        fun (values, s) => (value :: values, s) := by
  rw [readItems, nextItem_spaced h.isItem first hblanks]
  simp only [h.readsBack (x.back ++ rest)]

theorem readItems_close (bound : Nat) (first : Bool) {blanks : List Char}
    (hblanks : AllBlank blanks) (rest : List Char) :
    readItems item (bound + 1) first (blanks ++ ']' :: rest) = .ok ([], rest) := by
  have hclose : isBlank ']' = false := rfl
  simp [readItems, nextItem, closeList, dropBlank_append hblanks, dropBlank_cons_of_not hclose,
    Except.map]

/-- What stands behind an item, up to and with the closing bracket. -/
theorem readItems_others {items : List Spaced} {values : List α}
    (h : List.Forall₂ (IsReadAs item) items values) {bound : Nat} (hbound : items.length < bound)
    {blanks : List Char} (hblanks : AllBlank blanks) (rest : List Char) :
    readItems item bound false
        (blanks ++ (items.flatMap (fun x => ',' :: x.write) ++ ']' :: rest)) =
      .ok (values, rest) := by
  induction h generalizing bound blanks with
  | nil =>
    obtain ⟨bound, rfl⟩ := Nat.exists_eq_add_one.mpr hbound
    exact readItems_close bound false hblanks rest
  | @cons x value items values hx _ ih =>
    obtain ⟨bound, rfl⟩ := Nat.exists_eq_add_one.mpr (Nat.zero_lt_of_lt hbound)
    have hrest := ih (Nat.lt_of_succ_lt_succ hbound) x.back_blank
    have hstep := readItems_item hx bound false hblanks
      (items.flatMap (fun x => ',' :: x.write) ++ ']' :: rest)
    rw [hrest] at hstep
    rw [List.flatMap_cons, List.append_assoc]
    exact hstep

theorem readList_spaced {items : List Spaced} {values : List α} (hne : items ≠ [])
    (h : List.Forall₂ (IsReadAs item) items values) :
    ReadsBack (readList item) (writeList (items.map Spaced.write)) values := by
  intro rest
  cases h with
  | nil => exact absurd rfl hne
  | @cons x value items values hx hitems =>
    let behind := items.flatMap (fun x => ',' :: x.write) ++ ']' :: rest
    have hwritten : writeList ((x :: items).map Spaced.write) ++ rest =
        '[' :: (x.write ++ behind) := by
      simp [writeList, joined_comma_cons, List.flatMap_map, behind]
    have hroom : items.length < (x.write ++ behind).length := by
      have hitems : items.length ≤ (items.flatMap fun x => ',' :: x.write).length :=
        length_le_flatMap (fun _ => List.cons_ne_nil _ _) items
      simp only [behind, List.length_append, List.length_cons]
      omega
    have hstep := readItems_item hx (x.write ++ behind).length true allBlank_nil behind
    have hrest : readItems item (x.write ++ behind).length false (x.back ++ behind) =
        .ok (values, rest) := readItems_others hitems hroom x.back_blank rest
    rw [hrest] at hstep
    rw [hwritten, readList, dropBlank_cons_of_not rfl]
    exact hstep

end Items

theorem IsStringList.readList {s : List Char} {texts : List String} (h : IsStringList s texts)
    (expected : Expected) : ReadsBack (Json.readList (readString expected)) s texts := by
  cases h with
  | empty hblank =>
    intro rest
    rw [List.cons_append, List.append_assoc, Json.readList, dropBlank_cons_of_not rfl]
    exact readItems_close _ true hblank rest
  | items hne h =>
    exact readList_spaced hne
      (h.imp fun _ _ hliteral => ⟨hliteral.isItem, hliteral.readString expected⟩)

theorem readList_write {x : Spaced} {texts : List String} (h : IsStringList x.text texts)
    (expected : Expected) (rest : List Char) :
    readList (readString expected) (x.write ++ rest) = .ok (texts, x.back ++ rest) := by
  have hread := h.readList expected (x.back ++ rest)
  rw [readList] at hread ⊢
  rwa [x.dropBlank_write rest]

/-! ## Steps one after another -/

section Steps

variable {σ α : Type}

/-- The things of a list take one state to another, step by step. -/
inductive Steps (step : σ → α → σ → Prop) : σ → List α → σ → Prop where
  | nil {a : σ} : Steps step a [] a
  | cons {x : α} {xs : List α} {a b c : σ} (h : step a x b) (hxs : Steps step b xs c) :
      Steps step a (x :: xs) c

variable {step : σ → α → σ → Prop} {xs ys : List α} {a b : σ}

theorem Steps.imp {other : σ → α → σ → Prop} (himp : ∀ a x b, step a x b → other a x b)
    (h : Steps step a xs b) : Steps other a xs b := by
  induction h with
  | nil => exact .nil
  | cons h _ ih => exact .cons (himp _ _ _ h) ih

/-- Steps that commute may be made in any order. -/
theorem Steps.perm
    (hswap : ∀ {a b c x y}, step a x b → step b y c → ∃ d, step a y d ∧ step d x c)
    (hperm : xs.Perm ys) (h : Steps step a xs b) : Steps step a ys b := by
  induction hperm generalizing a with
  | nil => exact h
  | cons x _ ih =>
    cases h with
    | cons h hxs => exact .cons h (ih hxs)
  | swap x y xs =>
    cases h with
    | cons hy h =>
      cases h with
      | cons hx hxs =>
        obtain ⟨d, hx, hy⟩ := hswap hy hx
        exact .cons hx (.cons hy hxs)
  | trans _ _ ihxs ihys => exact ihys (ihxs h)

end Steps

/-! ## Members -/

theorem nextKey_spaced {key : Spaced} {body : List Char} (h : key.text = literal body)
    (first : Bool) {blanks : List Char} (hblanks : AllBlank blanks) (rest : List Char) :
    nextKey first (blanks ++ (separator first ++ (key.write ++ rest))) =
      .ok (.inl (body ++ '"' :: (key.back ++ rest))) := by
  have hquote : isBlank '"' = false := rfl
  have hcomma : isBlank ',' = false := rfl
  have hdrop : dropBlank (key.write ++ rest) = '"' :: (body ++ '"' :: (key.back ++ rest)) := by
    rw [key.dropBlank_write, h, literal, List.cons_append, List.append_assoc,
      dropBlank_cons_of_not hquote]
    rfl
  rw [nextKey, dropBlank_append hblanks]
  cases first with
  | true => simp [separator, hdrop]
  | false => simp [separator, dropBlank_cons_of_not hcomma, hdrop]

theorem passColon_blanks {blanks : List Char} (h : AllBlank blanks) (s : List Char) :
    passColon (blanks ++ ':' :: s) = .ok s := by
  rw [passColon, dropBlank_append h, dropBlank_cons_of_not rfl]
  rfl

section Members

variable {σ : Type} {fields : List (Field σ)}

/-- What a member does to a record: a field is stored, and anything else is skipped. -/
inductive Takes (fields : List (Field σ)) : σ → Member → σ → Prop where
  | stored {m : Member} {key : String} {field : Field σ} {record record' : σ}
      (hkey : IsLiteral m.key.text key) (hfind : fields.find? (·.name == key) = some field)
      (hfilled : field.filled record = false)
      (hread : ∀ rest, field.read record (m.value.write ++ rest) =
        .ok (record', m.value.back ++ rest)) : Takes fields record m record'
  | skipped {m : Member} {key : String} {record : σ} (hkey : IsLiteral m.key.text key)
      (hfind : fields.find? (·.name == key) = none) (hvalue : IsValue m.value.text) :
      Takes fields record m record

theorem readMembers_member {m : Member} {record record' : σ} (h : Takes fields record m record')
    (bound : Nat) (first : Bool) {blanks rest : List Char} (hblanks : AllBlank blanks)
    (hrest : EndsNumber rest) :
    readMembers fields (bound + 1) first record (blanks ++ (separator first ++ (m.write ++ rest))) =
      readMembers fields bound false record' (m.value.back ++ rest) := by
  have hwrite : m.write ++ rest = m.key.write ++ ':' :: (m.value.write ++ rest) := by
    simp [Member.write]
  rw [hwrite, readMembers]
  cases h with
  | stored hkey hfind hfilled hread =>
    obtain ⟨body, hbody, hspells⟩ := hkey
    rw [nextKey_spaced hbody first hblanks]
    simp [bind, Except.bind, hspells.readText, hfind, hfilled, passColon_blanks m.key.back_blank,
      hread]
  | skipped hkey hfind hvalue =>
    obtain ⟨body, hbody, hspells⟩ := hkey
    rw [nextKey_spaced hbody first hblanks]
    simp [bind, Except.bind, hspells.readText, hfind, passColon_blanks m.key.back_blank,
      skipValue_of_isValue hvalue hrest]

/-- What stands behind a member, up to and with the closing brace. -/
theorem readMembers_others {members : List Member} {record whole : σ}
    (h : Steps (Takes fields) record members whole) {bound : Nat} (hbound : members.length < bound)
    {blanks : List Char} (hblanks : AllBlank blanks) (rest : List Char) :
    readMembers fields bound false record
        (blanks ++ (members.flatMap (fun m => ',' :: m.write) ++ '\x7d' :: rest)) =
      .ok (whole, rest) := by
  induction h generalizing bound blanks with
  | nil =>
    obtain ⟨bound, rfl⟩ := Nat.exists_eq_add_one.mpr hbound
    have hclose : isBlank '\x7d' = false := rfl
    simp [readMembers, nextKey, dropBlank_append hblanks, dropBlank_cons_of_not hclose, bind,
      Except.bind]
  | @cons m members record half whole hm _ ih =>
    obtain ⟨bound, rfl⟩ := Nat.exists_eq_add_one.mpr (Nat.zero_lt_of_lt hbound)
    have hends : EndsNumber (members.flatMap (fun m => ',' :: m.write) ++ '\x7d' :: rest) :=
      endsNumber_behind Member.write members (by decide) rest
    have hstep := readMembers_member hm bound false hblanks hends
    rw [ih (Nat.lt_of_succ_lt_succ hbound) m.value.back_blank] at hstep
    rw [List.flatMap_cons, List.append_assoc]
    exact hstep

/-- A record is read from an object whose members make it whole. -/
theorem readRecord_objectText {members : List Member} {empty whole : σ} (hne : members ≠ [])
    (h : Steps (Takes fields) empty members whole) (hwhole : missing fields whole = none)
    (name : String) : ReadsBack (readRecord name fields empty) (objectText members) whole := by
  intro rest
  cases h with
  | nil => exact absurd rfl hne
  | @cons m members _ half _ hm hmembers =>
    let behind := members.flatMap (fun m => ',' :: m.write) ++ '\x7d' :: rest
    have hwritten : objectText (m :: members) ++ rest = '\x7b' :: (m.write ++ behind) := by
      simp [objectText, joined_comma_cons, List.flatMap_map, behind]
    have hroom : members.length < (m.write ++ behind).length := by
      have hmembers : members.length ≤ (members.flatMap fun m => ',' :: m.write).length :=
        length_le_flatMap (fun _ => List.cons_ne_nil _ _) members
      simp only [behind, List.length_append, List.length_cons]
      omega
    have hends : EndsNumber behind := endsNumber_behind Member.write members (by decide) rest
    have hread : readMembers fields ((m.write ++ behind).length + 1) true empty
        (m.write ++ behind) = .ok (whole, rest) :=
      (readMembers_member hm _ true allBlank_nil hends).trans
        (readMembers_others hmembers hroom m.value.back_blank rest)
    have hbracket : ('\x7b' : Char) ≠ '[' := by decide
    rw [hwritten, readRecord, dropBlank_cons_of_not rfl]
    simp only [if_neg hbracket, if_true, hread, bind, Except.bind, hwhole]

end Members

end PathKeeper.Json
