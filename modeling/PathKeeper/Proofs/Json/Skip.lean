import PathKeeper.Json.Skip
import PathKeeper.Proofs.Json.Grammar
import PathKeeper.Proofs.Json.Number
import PathKeeper.Proofs.Json.ReadBack

/-!
# Values are skipped

The machine that skips a value goes from the spot where a value is due to the spot behind it, over
any value of the grammar and whatever lists and objects are open. So the text behind a value is all
that is left of it.
-/

namespace PathKeeper.Json

set_option autoImplicit false

open Text (hexDigit? joined spelled?)

/-! ## What ends a number -/

theorem endsNumber_cons {c : Char} (h : c ∈ [',', ']', '\x7d']) (s : List Char) :
    EndsNumber (c :: s) := by
  intro d hd
  obtain rfl : c = d := Option.some.inj hd
  simp only [List.mem_cons, List.not_mem_nil, or_false] at h
  obtain rfl | rfl | rfl := h <;> decide

/-- What stands behind an item or a member, up to and with the closing character. -/
theorem endsNumber_behind {α : Type} (write : α → List Char) (items : List α) {close : Char}
    (h : close ∈ [']', '\x7d']) (rest : List Char) :
    EndsNumber (items.flatMap (fun x => ',' :: write x) ++ close :: rest) := by
  cases items with
  | nil => exact endsNumber_cons (List.mem_cons_of_mem ',' h) rest
  | cons x items => exact endsNumber_cons List.mem_cons_self _

theorem EndsNumber.blanks {blanks rest : List Char} (hblanks : AllBlank blanks)
    (h : EndsNumber rest) : EndsNumber (blanks ++ rest) := by
  cases blanks with
  | nil => exact h
  | cons c blanks =>
    intro d hd
    obtain rfl : c = d := Option.some.inj hd
    have hblank : isBlank c = true := hblanks c List.mem_cons_self
    simp only [isBlank, Bool.or_eq_true, beq_iff_eq] at hblank
    rcases hblank with ((rfl | rfl) | rfl) | rfl <;> decide

namespace Skip

/-! ## Steps -/

variable {spot spot' : Spot} {frames frames' : List Frame} {c : Char} {s rest : List Char}

theorem run_go (h : step spot frames c = .go spot' frames') (s : List Char) :
    run spot frames (c :: s) = run spot' frames' s := by
  rw [run, h]

theorem run_after_nil (s : List Char) : run .after [] s = .ok s := by
  cases s <;> rfl

/-- When a value is complete, the machine stands behind it. -/
theorem run_complete (h : step spot frames c = complete frames') (s : List Char) :
    run spot frames (c :: s) = run .after frames' s := by
  rw [run, h]
  cases frames' with
  | nil => exact (run_after_nil s).symm
  | cons frame outer => rfl

/-- Whether blanks may stand here: a token is due. -/
def Spot.isBetween (frames : List Frame) : Spot → Bool
  | .value | .key | .colon => true
  | .opened | .after => !frames.isEmpty
  | _ => false

theorem step_blank (hspot : spot.isBetween frames = true) (hc : isBlank c = true) :
    step spot frames c = .go spot frames := by
  cases spot with
  | value | key | colon => exact if_pos hc
  | opened | after =>
    cases frames with
    | nil => cases hspot
    | cons frame outer => exact if_pos hc
  | ident | number | text | escape | hex => cases hspot

theorem run_blanks (spot : Spot) (frames : List Frame) (hspot : spot.isBetween frames = true)
    {blanks : List Char} (h : AllBlank blanks) (s : List Char) :
    run spot frames (blanks ++ s) = run spot frames s := by
  induction blanks with
  | nil => rfl
  | cons c blanks ih =>
    obtain ⟨hc, hblanks⟩ := List.forall_mem_cons.mp h
    rw [List.cons_append, run_go (step_blank hspot hc)]
    exact ih hblanks

/-! ## Strings -/

theorem unescape?_of_mem {letter : Char} (h : (letter, c) ∈ shortEscapes) :
    unescape? letter = some c := by
  have hall : ∀ p ∈ shortEscapes, unescape? p.1 = some p.2 := by decide
  exact hall _ h

theorem ne_u_of_mem {letter : Char} (h : (letter, c) ∈ shortEscapes) : letter ≠ 'u' := by
  have hall : ∀ p ∈ shortEscapes, p.1 ≠ 'u' := by decide
  exact hall _ h

theorem utf8Size_of_hexDigit? (h : (hexDigit? c).isSome) : c.utf8Size = 1 := by
  have hle : c.toNat ≤ 'f'.toNat := by
    have h9 : ('9' : Char).toNat ≤ 'f'.toNat := by decide
    have hF : ('F' : Char).toNat ≤ 'f'.toNat := by decide
    unfold hexDigit? at h
    split_ifs at h with hc hc hc
    · exact (Text.char_le_iff.mp hc.2).trans h9
    · exact Text.char_le_iff.mp hc.2
    · exact (Text.char_le_iff.mp hc.2).trans hF
    · cases h
  have hmost : 'f'.toNat ≤ 127 := by decide
  exact Char.utf8Size_eq_one_iff.mpr (UInt32.le_iff_toNat_le.mpr (hle.trans hmost))

theorem run_hex (frames : List Frame) (isKey : Bool) {quad : List Char} (hne : quad ≠ [])
    (h : ∀ c ∈ quad, (hexDigit? c).isSome) (s : List Char) :
    run (.hex isKey quad.length true) frames (quad ++ s) = run (.text isKey) frames s := by
  induction quad with
  | nil => exact absurd rfl hne
  | cons c quad ih =>
    obtain ⟨hc, hquad⟩ := List.forall_mem_cons.mp h
    rw [List.cons_append, run]
    simp only [step, atHex, hc, utf8Size_of_hexDigit? hc, List.length_cons, Nat.add_sub_cancel]
    by_cases hlast : quad = []
    · subst hlast
      rfl
    · simp only [List.length_eq_zero_iff.not.mpr hlast, ne_eq, not_false_eq_true, if_true]
      exact ih hlast hquad

theorem run_body {body : List Char} (h : IsBody body) (isKey : Bool) (s : List Char) :
    run (.text isKey) frames (body ++ s) = run (.text isKey) frames s := by
  induction h with
  | nil => rfl
  | plain hc _ ih =>
    obtain ⟨hlarge, hquote, hbackslash⟩ := hc
    have hstep : step (.text isKey) frames _ = .go (.text isKey) frames :=
      (if_neg hquote).trans ((if_neg hbackslash).trans (if_neg (Nat.not_lt.mpr hlarge)))
    rw [List.cons_append, run_go hstep, ih]
  | short hletter _ ih =>
    have hstep : step (.escape isKey) frames _ = .go (.text isKey) frames :=
      (if_neg (ne_u_of_mem hletter)).trans (if_pos (by rw [unescape?_of_mem hletter]; rfl))
    rw [List.cons_append, List.cons_append, run_go rfl, run_go hstep, ih]
  | quad hquad _ ih =>
    obtain ⟨hlength, hspelled⟩ := hquad
    have hne := List.ne_nil_of_length_eq_add_one hlength
    have hdigits := run_hex frames isKey hne (Text.isSome_of_spelled? hspelled)
    rw [hlength] at hdigits
    rw [List.cons_append, List.cons_append, run_go rfl, run_go rfl, List.append_assoc, hdigits, ih]

theorem run_literal {body : List Char} (h : IsBody body) (s : List Char) :
    run .value frames (literal body ++ s) = run .after frames s := by
  have hquote : step .value frames '"' = .go (.text false) frames := rfl
  rw [literal, List.cons_append, List.append_assoc, run_go hquote, run_body h]
  exact run_complete rfl s

/-! ## Words -/

theorem run_ident {due : List Char} (hne : due ≠ []) (s : List Char) :
    run (.ident due) frames (due ++ s) = run .after frames s := by
  induction due with
  | nil => exact absurd rfl hne
  | cons d due ih =>
    cases due with
    | nil =>
      have hstep : step (.ident [d]) frames d = complete frames := if_pos rfl
      exact run_complete hstep s
    | cons e due =>
      have hstep : step (.ident (d :: e :: due)) frames d = .go (.ident (e :: due)) frames :=
        if_pos rfl
      rw [List.cons_append, run_go hstep]
      exact ih (List.cons_ne_nil e due)

theorem run_word {word : List Char} (h : word ∈ words) (s : List Char) :
    run .value frames (word ++ s) = run .after frames s := by
  have hcases : word = ['n', 'u', 'l', 'l'] ∨ word = ['t', 'r', 'u', 'e'] ∨
      word = ['f', 'a', 'l', 's', 'e'] := by
    simpa [words] using h
  obtain rfl | rfl | rfl := hcases
  all_goals exact (run_go rfl _).trans (run_ident (List.cons_ne_nil _ _) s)

/-! ## Numbers -/

theorem ne_of_isDigit (h : isDigit c = true) {d : Char} (hd : isDigit d = false) : c ≠ d := by
  rintro rfl
  rw [h] at hd
  cases hd

/-- A number that may end does so where nothing carries it on. -/
theorem run_end {digits : Digits} (h : digits.mayEnd = true) (hrest : EndsNumber rest) :
    run (.number digits) frames rest = run .after frames rest := by
  cases rest with
  | nil =>
    cases digits with
    | zero | whole | places | exponent => rfl
    | minus | point | mark | sign => cases h
  | cons c rest =>
    obtain ⟨hdigit, hpoint, hsmall, hlarge⟩ := hrest c rfl
    have hstep : step (.number digits) frames c = step .after frames c := by
      cases digits with
      | zero | whole | places | exponent =>
        simp [step, atNumber, hdigit, hpoint, hsmall, hlarge]
      | minus | point | mark | sign => cases h
    rw [run, run, hstep]

/-- Where digits lead to; more of them may follow there. -/
def Digits.behind : Digits → Digits
  | .minus | .zero | .whole => .whole
  | .point | .places => .places
  | .mark | .sign | .exponent => .exponent

theorem run_isDigits {digits : Digits} (hminus : digits ≠ .minus) (hzero : digits ≠ .zero)
    (h : IsDigits s) (rest : List Char) :
    run (.number digits) frames (s ++ rest) = run (.number digits.behind) frames rest := by
  obtain ⟨hne, hall⟩ := h
  induction s generalizing digits with
  | nil => exact absurd rfl hne
  | cons c s ih =>
    obtain ⟨hc, hs⟩ := List.forall_mem_cons.mp hall
    have hstep : step (.number digits) frames c = .go (.number digits.behind) frames := by
      have hplus : c ≠ '+' := ne_of_isDigit hc rfl
      have hdash : c ≠ '-' := ne_of_isDigit hc rfl
      cases digits with
      | minus => exact absurd rfl hminus
      | zero => exact absurd rfl hzero
      | whole | point | places | mark | sign | exponent =>
        simp [step, atNumber, Digits.behind, hc, hplus, hdash]
    rw [List.cons_append, run_go hstep]
    by_cases hlast : s = []
    · rw [hlast, List.nil_append]
    · have hbehind : digits.behind.behind = digits.behind := by cases digits <;> rfl
      have hrun := @ih digits.behind (by cases digits <;> decide) (by cases digits <;> decide)
        hlast hs
      rwa [hbehind] at hrun

theorem run_exponent {digits : Digits}
    (hdigits : digits = .zero ∨ digits = .whole ∨ digits = .places) (h : IsExponent s)
    (hrest : EndsNumber rest) :
    run (.number digits) frames (s ++ rest) = run .after frames rest := by
  cases h with
  | absent =>
    refine run_end ?_ hrest
    obtain rfl | rfl | rfl := hdigits <;> rfl
  | @present mark sign s hmark hsign h =>
    have hstep : step (.number digits) frames mark = .go (.number .mark) frames := by
      obtain rfl | rfl | rfl := hdigits <;> obtain rfl | rfl := hmark <;> rfl
    have hsigned : run (.number .sign) frames (s ++ rest) = run (.number .exponent) frames rest :=
      run_isDigits (by decide) (by decide) h rest
    have hend : run (.number .exponent) frames rest = run .after frames rest := run_end rfl hrest
    rw [List.cons_append, run_go hstep, List.append_assoc, ← hend]
    obtain rfl | rfl | rfl := hsign
    · exact run_isDigits (by decide) (by decide) h rest
    · exact (run_go rfl _).trans hsigned
    · exact (run_go rfl _).trans hsigned

theorem run_places {digits : Digits} (hdigits : digits = .zero ∨ digits = .whole)
    {places exponent : List Char} (hplaces : IsPlaces places) (hexponent : IsExponent exponent)
    (hrest : EndsNumber rest) :
    run (.number digits) frames (places ++ (exponent ++ rest)) = run .after frames rest := by
  cases hplaces with
  | absent =>
    have hdigits : digits = .zero ∨ digits = .whole ∨ digits = .places := by tauto
    exact run_exponent hdigits hexponent hrest
  | present h =>
    have hstep : step (.number digits) frames '.' = .go (.number .point) frames := by
      obtain rfl | rfl := hdigits <;> rfl
    rw [List.cons_append, run_go hstep, run_isDigits (by decide) (by decide) h]
    exact run_exponent (.inr (.inr rfl)) hexponent hrest

theorem step_value_digit (h : isDigit c = true) :
    step .value frames c = .go (.number (if c = '0' then .zero else .whole)) frames := by
  have hne : ∀ d, isDigit d = false → c ≠ d := fun d hd => ne_of_isDigit h hd
  simp only [step, atValue, isBlank_of_isDigit h, hne '[' rfl, hne '\x7b' rfl, hne '"' rfl,
    hne 'n' rfl, hne 't' rfl, hne 'f' rfl, hne '-' rfl, h, Bool.false_eq_true, if_false, if_true]
  split <;> rfl

theorem step_minus_digit (h : isDigit c = true) :
    step (.number .minus) frames c = .go (.number (if c = '0' then .zero else .whole)) frames := by
  simp only [step, atNumber, h, if_true]
  split <;> rfl

/-- A number without its sign, where a number may begin and behind a sign. -/
theorem run_unsigned {spot : Spot}
    (hspot : ∀ c, isDigit c = true →
      step spot frames c = .go (.number (if c = '0' then .zero else .whole)) frames)
    {whole places exponent : List Char} (hwhole : IsWhole whole) (hplaces : IsPlaces places)
    (hexponent : IsExponent exponent) (hrest : EndsNumber rest) :
    run spot frames (whole ++ (places ++ (exponent ++ rest))) = run .after frames rest := by
  cases hwhole with
  | zero =>
    rw [List.singleton_append, run_go (hspot '0' rfl)]
    exact run_places (.inl rfl) hplaces hexponent hrest
  | @digits c s hzero h =>
    obtain ⟨hc, hs⟩ := List.forall_mem_cons.mp h.2
    have hstep := hspot c hc
    rw [if_neg hzero] at hstep
    rw [List.cons_append, run_go hstep, ← run_places (.inr rfl) hplaces hexponent hrest]
    by_cases hlast : s = []
    · rw [hlast, List.nil_append]
    · exact run_isDigits (by decide) (by decide) ⟨hlast, hs⟩ _

theorem run_number {number : List Char} (h : IsNumber number) (hrest : EndsNumber rest) :
    run .value frames (number ++ rest) = run .after frames rest := by
  obtain ⟨hsign, hwhole, hplaces, hexponent⟩ := h
  rw [List.append_assoc, List.append_assoc, List.append_assoc]
  obtain rfl | rfl := hsign
  · exact run_unsigned (fun _ => step_value_digit) hwhole hplaces hexponent hrest
  · have hminus : step .value frames '-' = .go (.number .minus) frames := rfl
    rw [List.singleton_append, run_go hminus]
    exact run_unsigned (fun _ => step_minus_digit) hwhole hplaces hexponent hrest

/-! ## Lists and objects -/

/-- The machine goes over the text as over a value. -/
def Passes (text : List Char) : Prop :=
  ∀ frames rest, EndsNumber rest → run .value frames (text ++ rest) = run .after frames rest

/-- What is due behind a comma. -/
def Frame.due : Frame → Spot
  | .list => .value
  | .object => .key

theorem Frame.closer_mem (frame : Frame) : frame.closer ∈ [']', '\x7d'] := by
  cases frame <;> decide

/-- The machine goes over the text as over one item or member of a list or object, be it the first
one or not. -/
def PassesIn (frame : Frame) (text : List Char) : Prop :=
  ∀ spot outer rest, spot = .opened ∨ spot = frame.due → EndsNumber rest →
    run spot (frame :: outer) (text ++ rest) = run .after (frame :: outer) rest

theorem run_behind (frame : Frame) (outer : List Frame) {texts : List (List Char)}
    (h : ∀ text ∈ texts, PassesIn frame text) (rest : List Char) :
    run .after (frame :: outer) (texts.flatMap (',' :: ·) ++ frame.closer :: rest) =
      run .after outer rest := by
  induction texts with
  | nil =>
    have hclose : step .after (frame :: outer) frame.closer = complete outer := by
      cases frame <;> rfl
    exact run_complete hclose rest
  | cons text texts ih =>
    obtain ⟨htext, htexts⟩ := List.forall_mem_cons.mp h
    have hcomma : step .after (frame :: outer) ',' = .go frame.due (frame :: outer) := by
      cases frame <;> rfl
    rw [List.flatMap_cons, List.append_assoc, List.cons_append, run_go hcomma,
      htext _ _ _ (.inr rfl) (endsNumber_behind (fun text => text) texts frame.closer_mem rest),
      ih htexts]

theorem run_joined (frame : Frame) (outer : List Frame) {texts : List (List Char)}
    (hne : texts ≠ []) (h : ∀ text ∈ texts, PassesIn frame text) (rest : List Char) :
    run .opened (frame :: outer) (joined [','] texts ++ frame.closer :: rest) =
      run .after outer rest := by
  obtain ⟨first, others, rfl⟩ := List.exists_cons_of_ne_nil hne
  obtain ⟨hfirst, hothers⟩ := List.forall_mem_cons.mp h
  rw [joined_comma_cons, List.append_assoc,
    hfirst _ _ _ (.inl rfl) (endsNumber_behind (fun text => text) others frame.closer_mem rest)]
  exact run_behind frame outer hothers rest

theorem run_empty (frame : Frame) (outer : List Frame) {blanks : List Char} (h : AllBlank blanks)
    (rest : List Char) :
    run .opened (frame :: outer) (blanks ++ frame.closer :: rest) = run .after outer rest := by
  have hclose : step .opened (frame :: outer) frame.closer = complete outer := by
    cases frame <;> rfl
  rw [run_blanks .opened _ rfl h]
  exact run_complete hclose rest

theorem Passes.spaced {x : Spaced} (h : Passes x.text) (frame : Frame) (outer : List Frame)
    {rest : List Char} (hrest : EndsNumber rest) :
    run .value (frame :: outer) (x.write ++ rest) = run .after (frame :: outer) rest := by
  rw [Spaced.write, List.append_assoc, List.append_assoc,
    run_blanks .value _ rfl x.front_blank, h _ _ (hrest.blanks x.back_blank),
    run_blanks .after _ rfl x.back_blank]

theorem passesIn_list {x : Spaced} (hitem : IsItem x.text) (h : Passes x.text) :
    PassesIn .list x.write := by
  intro spot outer rest hspot hrest
  obtain rfl | rfl := hspot
  · -- What is first is no closing bracket, so it is taken as a value.
    rw [← h.spaced .list outer hrest]
    obtain ⟨c, text, htext, hblank, hclose⟩ := hitem
    have hstep : step .opened (.list :: outer) c = step .value (.list :: outer) c := by
      simp [step, atOpened, hblank, hclose, Frame.closer]
    rw [Spaced.write, List.append_assoc, run_blanks .opened _ rfl x.front_blank,
      run_blanks .value _ rfl x.front_blank, htext]
    simp only [List.cons_append, run, hstep]
  · exact h.spaced .list outer hrest

theorem passesIn_object {m : Member} (hkey : IsString m.key.text) (h : Passes m.value.text) :
    PassesIn .object m.write := by
  intro spot outer rest hspot hrest
  obtain ⟨body, hbody, hisBody⟩ := hkey
  have hbetween : spot.isBetween (.object :: outer) = true := by
    obtain rfl | rfl := hspot <;> rfl
  have hquote : step spot (.object :: outer) '"' = .go (.text true) (.object :: outer) := by
    obtain rfl | rfl := hspot <;> rfl
  have hclose : step (.text true) (.object :: outer) '"' = .go .colon (.object :: outer) := rfl
  have hcolon : step .colon (.object :: outer) ':' = .go .value (.object :: outer) := rfl
  have hwrite : m.write ++ rest = m.key.front ++ '"' :: (body ++ '"' :: (m.key.back ++ ':' ::
      (m.value.write ++ rest))) := by
    simp [Member.write, Spaced.write, hbody, literal]
  rw [hwrite, run_blanks spot _ hbetween m.key.front_blank, run_go hquote, run_body hisBody,
    run_go hclose, run_blanks .colon _ rfl m.key.back_blank, run_go hcolon,
    h.spaced .object outer hrest]

end Skip

/-! ## Values -/

theorem IsWhole.exists_digit {s : List Char} (h : IsWhole s) :
    ∃ c t, s = c :: t ∧ isDigit c = true := by
  cases h with
  | zero => exact ⟨'0', [], rfl, rfl⟩
  | digits _ h => exact ⟨_, _, rfl, h.2 _ List.mem_cons_self⟩

theorem IsValue.isItem {s : List Char} (h : IsValue s) : IsItem s := by
  cases h with
  | word h =>
    simp only [words, List.mem_cons, List.not_mem_nil, or_false] at h
    obtain rfl | rfl | rfl := h <;> exact ⟨_, _, rfl, rfl, by decide⟩
  | number h =>
    obtain ⟨rfl | rfl, hwhole, -, -⟩ := h
    · obtain ⟨c, t, rfl, hc⟩ := hwhole.exists_digit
      exact ⟨c, _, rfl, isBlank_of_isDigit hc, Skip.ne_of_isDigit hc rfl⟩
    · exact ⟨'-', _, rfl, rfl, by decide⟩
  | string h =>
    obtain ⟨body, rfl, -⟩ := h
    exact ⟨'"', _, rfl, rfl, by decide⟩
  | emptyList | list | emptyObject | object => exact ⟨_, _, rfl, rfl, by decide⟩

theorem IsValue.passes {s : List Char} (h : IsValue s) : Skip.Passes s := by
  induction h with
  | word h => exact fun frames rest _ => Skip.run_word h rest
  | number h => exact fun frames rest hrest => Skip.run_number h hrest
  | string h =>
    obtain ⟨body, rfl, hbody⟩ := h
    exact fun frames rest _ => Skip.run_literal hbody rest
  | emptyList hblank =>
    intro frames rest _
    rw [List.cons_append, List.append_assoc, Skip.run_go rfl]
    exact Skip.run_empty .list frames hblank rest
  | emptyObject hblank =>
    intro frames rest _
    rw [List.cons_append, List.append_assoc, Skip.run_go rfl]
    exact Skip.run_empty .object frames hblank rest
  | @list items hne h ih =>
    intro frames rest _
    rw [writeList, List.cons_append, List.append_assoc, Skip.run_go rfl]
    refine Skip.run_joined .list frames (by simpa using hne) ?_ rest
    intro _ hwritten
    obtain ⟨x, hx, rfl⟩ := List.mem_map.mp hwritten
    exact Skip.passesIn_list (h x hx).isItem (ih x hx)
  | @object members hne hkeys h ih =>
    intro frames rest _
    rw [objectText, List.cons_append, List.append_assoc, Skip.run_go rfl]
    refine Skip.run_joined .object frames (by simpa using hne) ?_ rest
    intro _ hwritten
    obtain ⟨m, hm, rfl⟩ := List.mem_map.mp hwritten
    exact Skip.passesIn_object (hkeys m hm) (ih m hm)

/-- A value with blanks in front is dropped, whatever follows that does not carry it on. -/
theorem skipValue_of_isValue {x : Spaced} (h : IsValue x.text) {rest : List Char}
    (hrest : EndsNumber rest) : skipValue (x.write ++ rest) = .ok (x.back ++ rest) := by
  rw [skipValue, Spaced.write, List.append_assoc, List.append_assoc,
    Skip.run_blanks .value _ rfl x.front_blank, h.passes _ _ (hrest.blanks x.back_blank)]
  exact Skip.run_after_nil _

end PathKeeper.Json
