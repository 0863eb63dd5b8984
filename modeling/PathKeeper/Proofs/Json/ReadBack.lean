import PathKeeper.Json.Value
import PathKeeper.Json.Writer
import PathKeeper.Proofs.Text.Digits

/-!
# Reading back JSON

Strings, lists and members are read back from what is written of them, whatever follows. A string
may hold any characters: each is read back from its escape.
-/

namespace PathKeeper.Json

set_option autoImplicit false

open Text (joined)

/-- A reader takes `x` off the front of any text that begins with `text`. -/
def ReadsBack {α : Type} (read : Reader α) (text : List Char) (x : α) : Prop :=
  ∀ rest, read (text ++ rest) = .ok (x, rest)

theorem ReadsBack.readWhole {α : Type} {read : Reader α} {text : List Char} {x : α}
    (h : ReadsBack read text x) : Json.readWhole read text = .ok x := by
  have hread := h []
  rw [List.append_nil] at hread
  simp [Json.readWhole, hread]

/-! ## Strings -/

theorem hexQuad?_of_control {n : Nat} (h : n < 0x20) :
    hexQuad? '0' '0' (hexChar (n / 16)) (hexChar n) = some n := by
  have hzero : Text.hexDigit? '0' = some 0 := rfl
  have hhigh : Text.hexDigit? (hexChar (n / 16)) = some (n / 16 % 16) :=
    Text.hexDigit?_digitChar _ (Nat.mod_lt _ (by decide))
  have hlow : Text.hexDigit? (hexChar n) = some (n % 16) :=
    Text.hexDigit?_digitChar _ (Nat.mod_lt _ (by decide))
  simp only [hexQuad?, hzero, hhigh, hlow, Option.some.injEq]
  omega

theorem readEscape_control {c : Char} (h : c.toNat < 0x20) (s : List Char) :
    readEscape ('u' :: '0' :: '0' :: hexChar (c.toNat / 16) :: hexChar c.toNat :: s) =
      .ok (c, s) := by
  have hquad : readQuad ('0' :: '0' :: hexChar (c.toNat / 16) :: hexChar c.toNat :: s) =
      .ok (c.toNat, s) := by
    simp only [readQuad, hexQuad?_of_control h]
  have htrailing : isTrailing c.toNat = false := by
    simp only [isTrailing, Bool.and_eq_false_iff, decide_eq_false_iff_not]
    omega
  have hleading : isLeading c.toNat = false := by
    simp only [isLeading, Bool.and_eq_false_iff, decide_eq_false_iff_not]
    omega
  simp only [readEscape, readCodePoint, hquad, bind, Except.bind, htrailing, hleading,
    Char.ofNat_toNat]
  rfl

/-- A character is read back from its escape. -/
theorem readChars_escapeChar (c : Char) (bound : Nat) (s : List Char) :
    readChars (bound + 1) (escapeChar c ++ s) = withChar c (readChars bound s) := by
  unfold escapeChar
  split
  case h_8 hquote hbackslash _ _ _ _ _ =>
    split
    · next hcontrol =>
      have hescape := readEscape_control hcontrol s
      simp only [List.cons_append, List.nil_append, readChars, hescape]
      rfl
    · next hcontrol =>
      simp only [List.singleton_append, readChars, if_neg hquote, if_neg hbackslash,
        if_neg hcontrol]
  all_goals rfl

theorem readChars_escaped (text rest : List Char) {bound : Nat} (h : text.length < bound) :
    readChars bound (text.flatMap escapeChar ++ '"' :: rest) = .ok (text, rest) := by
  induction text generalizing bound with
  | nil =>
    obtain ⟨bound, rfl⟩ := Nat.exists_eq_add_one.mpr h
    rfl
  | cons c text ih =>
    obtain ⟨bound, rfl⟩ := Nat.exists_eq_add_one.mpr (Nat.zero_lt_of_lt h)
    rw [List.flatMap_cons, List.append_assoc, readChars_escapeChar,
      ih (Nat.lt_of_succ_lt_succ h)]
    rfl

theorem escapeChar_ne_nil (c : Char) : escapeChar c ≠ [] := by
  unfold escapeChar
  split
  case h_8 => split <;> simp
  all_goals simp

theorem length_le_flatMap {α β : Type} {f : α → List β} (hf : ∀ x, f x ≠ []) (items : List α) :
    items.length ≤ (items.flatMap f).length := by
  induction items with
  | nil => exact Nat.le_refl 0
  | cons x items ih =>
    have hpos : 0 < (f x).length := List.length_pos_iff.mpr (hf x)
    rw [List.flatMap_cons, List.length_append, List.length_cons]
    omega

/-- Behind its opening quote a string is read back. -/
theorem readText_escaped (text : String) (rest : List Char) :
    readText (text.toList.flatMap escapeChar ++ '"' :: rest) = .ok (text, rest) := by
  have hlength := length_le_flatMap escapeChar_ne_nil text.toList
  rw [readText, readChars_escaped]
  · simp only [String.ofList_toList]
  · rw [List.length_append, List.length_cons]
    omega

theorem quote_append (text : String) (rest : List Char) :
    quote text ++ rest = '"' :: (text.toList.flatMap escapeChar ++ '"' :: rest) := by
  simp [quote, quoteChars]

theorem readsBack_string (expected : Expected) (text : String) :
    ReadsBack (readString expected) (quote text) text := by
  intro rest
  rw [quote_append, readString, dropBlank_cons_of_not rfl]
  exact readText_escaped text rest

theorem readValue_quote (depth : Nat) (s : List Char) :
    readValue depth ('"' :: s) = (readText s).map fun (text, s) => (.string text, s) := by
  rw [readValue]
  change (readText s >>= fun (text, s) => .ok (Value.string text, s)) = _
  cases readText s <;> rfl

theorem readsBack_stringValue (depth : Nat) (text : String) :
    ReadsBack (readValue depth) (quote text) (.string text) := by
  intro rest
  rw [quote_append, readValue_quote, readText_escaped]
  rfl

/-! ## Lists -/

/-- Begins with a character that neither may be skipped nor closes a list. -/
def IsItem (text : List Char) : Prop :=
  ∃ c s, text = c :: s ∧ isBlank c = false ∧ c ≠ ']'

theorem isItem_quote (text : String) : IsItem (quote text) :=
  ⟨'"', _, rfl, rfl, by decide⟩

theorem nextItem_first {text : List Char} (h : IsItem text) (rest : List Char) :
    nextItem true (text ++ rest) = .ok (some (text ++ rest)) := by
  obtain ⟨c, s, rfl, hblank, hclose⟩ := h
  simp [nextItem, dropBlank_cons_of_not hblank, hclose]

theorem nextItem_comma {text : List Char} (h : IsItem text) (rest : List Char) :
    nextItem false (',' :: (text ++ rest)) = .ok (some (text ++ rest)) := by
  obtain ⟨c, s, rfl, hblank, hclose⟩ := h
  have hcomma : isBlank ',' = false := rfl
  simp [nextItem, dropBlank_cons_of_not hcomma, dropBlank_cons_of_not hblank, hclose]

section Items

variable {α β : Type} {item : Reader α} {write : β → List Char} {value : β → α}

theorem readItems_behind {items : List β}
    (hread : ∀ x ∈ items, ReadsBack item (write x) (value x))
    (hitem : ∀ x ∈ items, IsItem (write x)) {bound : Nat} (h : items.length < bound) (rest : List Char) :
    readItems item bound false (items.flatMap (fun x => ',' :: write x) ++ ']' :: rest) =
      .ok (items.map value, rest) := by
  induction items generalizing bound with
  | nil =>
    obtain ⟨bound, rfl⟩ := Nat.exists_eq_add_one.mpr h
    rfl
  | cons x items ih =>
    obtain ⟨bound, rfl⟩ := Nat.exists_eq_add_one.mpr (Nat.zero_lt_of_lt h)
    have hrest := ih (fun y hy => hread y (List.mem_cons_of_mem x hy))
      (fun y hy => hitem y (List.mem_cons_of_mem x hy)) (Nat.lt_of_succ_lt_succ h)
    rw [List.flatMap_cons, List.append_assoc, List.cons_append, readItems,
      nextItem_comma (hitem x List.mem_cons_self)]
    simp only [hread x List.mem_cons_self _, hrest]
    rfl

theorem joined_comma_cons (first : List Char) (others : List (List Char)) :
    joined [','] (first :: others) = first ++ others.flatMap (',' :: ·) := by
  induction others generalizing first with
  | nil => simp
  | cons other others ih =>
    rw [Text.joined_cons_cons, ih, List.flatMap_cons, List.append_assoc]
    rfl

theorem readItems_first {items : List β}
    (hread : ∀ x ∈ items, ReadsBack item (write x) (value x))
    (hitem : ∀ x ∈ items, IsItem (write x)) {bound : Nat} (h : items.length < bound) (rest : List Char) :
    readItems item bound true (joined [','] (items.map write) ++ ']' :: rest) =
      .ok (items.map value, rest) := by
  obtain ⟨bound, rfl⟩ := Nat.exists_eq_add_one.mpr (Nat.zero_lt_of_lt h)
  cases items with
  | nil => rfl
  | cons x items =>
    have hrest := readItems_behind (fun y hy => hread y (List.mem_cons_of_mem x hy))
      (fun y hy => hitem y (List.mem_cons_of_mem x hy)) (Nat.lt_of_succ_lt_succ h) rest
    rw [List.map_cons, joined_comma_cons, List.flatMap_map, List.append_assoc, readItems,
      nextItem_first (hitem x List.mem_cons_self)]
    simp only [hread x List.mem_cons_self _, hrest]
    rfl

/-- Items take up room, so the reader of a list looks far enough. -/
theorem length_le_joined {texts : List (List Char)} (h : ∀ text ∈ texts, IsItem text) :
    texts.length ≤ (joined [','] texts).length := by
  cases texts with
  | nil => exact Nat.le_refl 0
  | cons first others =>
    obtain ⟨c, s, rfl, -⟩ := h first List.mem_cons_self
    have hothers : others.length ≤ (others.flatMap (',' :: ·)).length :=
      length_le_flatMap (fun _ => List.cons_ne_nil _ _) others
    rw [joined_comma_cons, List.length_append, List.length_cons, List.length_cons]
    omega

theorem readItems_joined {items : List β}
    (hread : ∀ x ∈ items, ReadsBack item (write x) (value x))
    (hitem : ∀ x ∈ items, IsItem (write x)) (rest : List Char) :
    let text := joined [','] (items.map write) ++ ']' :: rest
    readItems item (text.length + 1) true text = .ok (items.map value, rest) := by
  intro text
  apply readItems_first hread hitem
  have hitems : ∀ text ∈ items.map write, IsItem text := by simpa using hitem
  have hlength := length_le_joined hitems
  simp only [text, List.length_append, List.length_cons, List.length_map] at hlength ⊢
  omega

theorem readsBack_list {items : List β}
    (hread : ∀ x ∈ items, ReadsBack item (write x) (value x))
    (hitem : ∀ x ∈ items, IsItem (write x)) :
    ReadsBack (readList item) (writeList (items.map write)) (items.map value) := by
  intro rest
  have hitems := readItems_joined hread hitem rest
  rw [writeList, List.cons_append, List.append_assoc, List.singleton_append, readList,
    dropBlank_cons_of_not rfl]
  exact hitems

end Items

theorem readValue_bracket (depth : Nat) (s : List Char) :
    readValue (depth + 1) ('[' :: s) =
      (readItems (readValue depth) (s.length + 1) true s).map
        fun (items, s) => (.list items, s) := by
  rw [readValue]
  change (readItems (readValue depth) (s.length + 1) true s >>=
    fun (items, s) => .ok (Value.list items, s)) = _
  cases readItems (readValue depth) (s.length + 1) true s <;> rfl

theorem readsBack_listValue {β : Type} {write : β → List Char} {value : β → Value} {depth : Nat}
    {items : List β} (hread : ∀ x ∈ items, ReadsBack (readValue depth) (write x) (value x))
    (hitem : ∀ x ∈ items, IsItem (write x)) :
    ReadsBack (readValue (depth + 1)) (writeList (items.map write))
      (.list (items.map value)) := by
  intro rest
  have hitems := readItems_joined hread hitem rest
  rw [writeList, List.cons_append, List.append_assoc, List.singleton_append, readValue_bracket,
    hitems]
  rfl

/-! ## Members -/

theorem passColon_colon (s : List Char) : passColon (':' :: s) = .ok s := rfl

/-- The text in front of the next key. -/
def separator (first : Bool) : List Char := if first then [] else [',']

theorem nextKey_separator (first : Bool) (key : String) (s : List Char) :
    nextKey first (separator first ++ (quote key ++ s)) =
      .ok (.inl (key.toList.flatMap escapeChar ++ '"' :: s)) := by
  rw [quote_append]
  cases first <;> rfl

theorem writeMember_append (key : String) (text s : List Char) :
    writeMember (key, text) ++ s = quote key ++ ':' :: (text ++ s) := by
  simp [writeMember]

section Members

variable {σ : Type} {fields : List (Field σ)}

theorem readMembers_close (bound : Nat) (first : Bool) (record : σ) (s : List Char) :
    readMembers fields (bound + 1) first record ('\x7d' :: s) = .ok (record, s) := rfl

/-- A member that is a field without a value so far is stored. -/
theorem readMembers_of_read {field : Field σ} {key : String} {text s : List Char}
    {record record' : σ} (hfind : fields.find? (·.name == key) = some field)
    (hfilled : field.filled record = false)
    (hread : field.read record (text ++ s) = .ok (record', s)) (bound : Nat) (first : Bool) :
    readMembers fields (bound + 1) first record
        (separator first ++ (writeMember (key, text) ++ s)) =
      readMembers fields bound false record' s := by
  rw [readMembers, writeMember_append, nextKey_separator]
  change (readText _ >>= _) = _
  rw [readText_escaped]
  simp [bind, Except.bind, hfind, hfilled, passColon_colon, hread]

theorem readMembers_field {field : Field σ} {key : String} {text : List Char} {record record' : σ}
    (hfind : fields.find? (·.name == key) = some field) (hfilled : field.filled record = false)
    (hread : ReadsBack (field.read record) text record') (bound : Nat) (first : Bool)
    (s : List Char) :
    readMembers fields (bound + 1) first record
        (separator first ++ (writeMember (key, text) ++ s)) =
      readMembers fields bound false record' s :=
  readMembers_of_read hfind hfilled (hread s) bound first

/-- A record of two fields is read back. What is written of the second one need be read back only in
front of the closing brace. -/
theorem readRecord_pair {one two : Field σ} {empty half whole : σ} {first second rest : List Char}
    (hone : fields.find? (·.name == one.name) = some one)
    (htwo : fields.find? (·.name == two.name) = some two) (hempty : one.filled empty = false)
    (hhalf : two.filled half = false) (hfirst : ReadsBack (one.read empty) first half)
    (hsecond : two.read half (second ++ '\x7d' :: rest) = .ok (whole, '\x7d' :: rest))
    (hwhole : missing fields whole = none) (name : String) :
    readRecord name fields empty (writeObject [(one.name, first), (two.name, second)] ++ rest) =
      .ok (whole, rest) := by
  let front := writeMember (one.name, first)
  let behind := ',' :: (writeMember (two.name, second) ++ '\x7d' :: rest)
  have hwritten : writeObject [(one.name, first), (two.name, second)] ++ rest =
      '\x7b' :: (front ++ behind) := by
    simp [writeObject, Text.joined_cons_cons, front, behind]
  have hmembers : readMembers fields ((front ++ behind).length + 1) true empty (front ++ behind) =
      .ok (whole, rest) := by
    obtain ⟨n, hn⟩ : ∃ n, (front ++ behind).length + 1 = n + 3 := by
      refine ⟨front.length + (writeMember (two.name, second)).length + rest.length, ?_⟩
      simp only [behind, List.length_append, List.length_cons]
      omega
    calc readMembers fields ((front ++ behind).length + 1) true empty (front ++ behind)
        = readMembers fields (n + 3) true empty (front ++ behind) := by rw [hn]
      _ = readMembers fields (n + 2) false half behind :=
        readMembers_field hone hempty hfirst _ true _
      _ = readMembers fields (n + 1) false whole ('\x7d' :: rest) :=
        readMembers_of_read htwo hhalf hsecond _ false
      _ = .ok (whole, rest) := readMembers_close n false whole rest
  rw [hwritten, readRecord, dropBlank_cons_of_not rfl]
  have hbracket : ('\x7b' : Char) ≠ '[' := by decide
  simp only [if_neg hbracket, if_true, hmembers, bind, Except.bind, hwhole]

end Members

section Tagged

variable {α β : Type} {tag : String} {names : Names α}

theorem readTaggedMembers_tag {variant : String} {x : α} (hname : names.value variant = .ok x)
    (bound : Nat) (first : Bool) (s : List Char) :
    readTaggedMembers tag names (bound + 1) first none
        (separator first ++ (writeMember (tag, quote variant) ++ s)) =
      readTaggedMembers tag names bound false (some x) s := by
  rw [readTaggedMembers, writeMember_append, nextKey_separator]
  change (readText _ >>= _) = _
  rw [readText_escaped]
  simp [bind, Except.bind, passColon_colon, readsBack_string .variant variant s, hname]

theorem readTaggedMembers_other {key : String} {text : List Char} {value : Value}
    (hkey : key ≠ tag) (hread : ReadsBack (readValue (maxDepth - 1)) text value) (bound : Nat)
    (first : Bool) (found : Option α) (s : List Char) :
    readTaggedMembers tag names (bound + 1) first found
        (separator first ++ (writeMember (key, text) ++ s)) =
      (readTaggedMembers tag names bound false found s).map
        fun ((found, members), s) => ((found, (key, value) :: members), s) := by
  rw [readTaggedMembers, writeMember_append, nextKey_separator]
  change (readText _ >>= _) = _
  rw [readText_escaped]
  simp only [bind, Except.bind, hkey, if_false, passColon_colon, hread s]
  cases readTaggedMembers tag names bound false found s <;> rfl

variable {key : β → String} {text : β → List Char} {value : β → Value}

theorem readTaggedMembers_behind {members : List β} (hkey : ∀ m ∈ members, key m ≠ tag)
    (hread : ∀ m ∈ members, ReadsBack (readValue (maxDepth - 1)) (text m) (value m)) {bound : Nat}
    (h : members.length < bound) (found : Option α) (rest : List Char) :
    readTaggedMembers tag names bound false found
        (members.flatMap (fun m => ',' :: writeMember (key m, text m)) ++ '\x7d' :: rest) =
      .ok ((found, members.map fun m => (key m, value m)), rest) := by
  induction members generalizing bound with
  | nil =>
    obtain ⟨bound, rfl⟩ := Nat.exists_eq_add_one.mpr h
    rfl
  | cons m members ih =>
    obtain ⟨bound, rfl⟩ := Nat.exists_eq_add_one.mpr (Nat.zero_lt_of_lt h)
    have hrest := ih (fun other hother => hkey other (List.mem_cons_of_mem m hother))
      (fun other hother => hread other (List.mem_cons_of_mem m hother)) (Nat.lt_of_succ_lt_succ h)
    let behind := members.flatMap (fun m => ',' :: writeMember (key m, text m)) ++ '\x7d' :: rest
    have hfirst : readTaggedMembers tag names (bound + 1) false found
        (',' :: (writeMember (key m, text m) ++ behind)) = _ :=
      readTaggedMembers_other (hkey m List.mem_cons_self) (hread m List.mem_cons_self) bound false
        found behind
    rw [hrest] at hfirst
    rw [List.flatMap_cons, List.append_assoc]
    exact hfirst

/-- An object whose members have been written behind its tag. -/
theorem readsBack_tagged (name : String) {variant : String} {x : α}
    (hname : names.value variant = .ok x) {members : List β} (hkey : ∀ m ∈ members, key m ≠ tag)
    (hread : ∀ m ∈ members, ReadsBack (readValue (maxDepth - 1)) (text m) (value m)) :
    ReadsBack (readTagged name tag names)
      (writeObject ((tag, quote variant) :: members.map fun m => (key m, text m)))
      (x, .keyed (members.map fun m => (key m, value m))) := by
  intro rest
  let behind := members.flatMap (fun m => ',' :: writeMember (key m, text m)) ++ '\x7d' :: rest
  have hwritten : writeObject ((tag, quote variant) :: members.map fun m => (key m, text m)) ++
      rest = '\x7b' :: (writeMember (tag, quote variant) ++ behind) := by
    simp [writeObject, joined_comma_cons, List.flatMap_map, behind]
  have hroom : members.length < (writeMember (tag, quote variant) ++ behind).length := by
    have hmembers : members.length ≤
        (members.flatMap fun m => ',' :: writeMember (key m, text m)).length :=
      length_le_flatMap (fun _ => List.cons_ne_nil _ _) members
    simp only [behind, List.length_append, List.length_cons]
    omega
  have hread : readTaggedMembers tag names ((writeMember (tag, quote variant) ++ behind).length + 1)
      true none (writeMember (tag, quote variant) ++ behind) =
        .ok ((some x, members.map fun m => (key m, value m)), rest) :=
    (readTaggedMembers_tag hname _ true behind).trans
      (readTaggedMembers_behind hkey hread hroom (some x) rest)
  rw [hwritten, readTagged, dropBlank_cons_of_not rfl]
  change (readTaggedMembers tag names _ true none _ >>= _) = _
  rw [hread]
  rfl

end Tagged

end PathKeeper.Json
