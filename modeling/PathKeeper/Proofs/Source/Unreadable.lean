import PathKeeper.Proofs.Source.Framing

/-!
# Lines that are no text

A line of text that holds no change is passed over. A line of other bytes ends the input: what
comes behind it is never read.
-/

namespace PathKeeper.Source

set_option autoImplicit false

open Text

/-- Whether some bytes are those of a text. -/
def isText (line : List UInt8) : Bool := (Utf8.decode line).toBool

/-- The change that a line holds by itself. -/
def ownChange? (line : List UInt8) : Option Change :=
  match Utf8.decode line with
  | .ok text => (decodeLine (String.ofList text)).toOption.join
  | .error _ => none

theorem isText_iff {line : List UInt8} : isText line = true ↔ ∃ text, line = Utf8.encode text := by
  unfold isText
  constructor
  · intro h
    cases hdecode : Utf8.decode line with
    | ok text => exact ⟨text, Utf8.decode_eq_ok_iff.mp hdecode⟩
    | error fault => simp [hdecode, Except.toBool] at h
  · rintro ⟨text, rfl⟩
    rw [Utf8.decode_encode]
    rfl

theorem ownChange?_encode (text : List Char) :
    ownChange? (Utf8.encode text) = changeOf? text := by
  simp only [ownChange?, Utf8.decode_encode, changeOf?_eq_decodeLine]

/-- A line feed behind some bytes makes no text of them. -/
theorem isText_of_isText_line {line : List UInt8} (h : isText (line ++ [lineFeed]) = true) :
    isText line = true := by
  obtain ⟨text, htext⟩ := isText_iff.mp h
  rcases List.eq_nil_or_concat text with rfl | ⟨front, c, rfl⟩
  · simp at htext
  have hbytes : line ++ [lineFeed] = Utf8.encode front ++ String.utf8EncodeChar c := by
    rw [htext, List.concat_eq_append, Utf8.encode_append]
    simp [Utf8.encode]
  -- the last byte of the last character is a line feed, so the character is one
  have hlast : lineFeed ∈ String.utf8EncodeChar c := by
    rcases List.eq_nil_or_concat (String.utf8EncodeChar c) with hnil | ⟨bytes, last, hchar⟩
    · exact absurd hnil String.utf8EncodeChar_ne_nil
    · rw [hchar, List.concat_eq_append, ← List.append_assoc] at hbytes
      obtain ⟨-, hlineFeed⟩ := List.append_inj' hbytes rfl
      rw [hchar, List.concat_eq_append, List.singleton_inj.mp hlineFeed]
      simp
  have hchar : c = '\n' := Utf8.mem_encodeChar_ten hlast
  subst hchar
  exact isText_iff.mpr ⟨front, List.append_cancel_right hbytes⟩

theorem ofLine_of_not_isText {line : List UInt8} (h : isText line = false) :
    ∃ reason, Reading.ofLine (line ++ [lineFeed]) = .broken reason := by
  unfold Reading.ofLine lineText
  cases hdecode : Utf8.decode (line ++ [lineFeed]) with
  | ok text =>
    have htext : isText (line ++ [lineFeed]) = true :=
      isText_iff.mpr ⟨text, Utf8.decode_eq_ok_iff.mp hdecode⟩
    rw [isText_of_isText_line htext] at h
    cases h
  | error fault => exact ⟨fault.message, rfl⟩

/-- What lines bring, as far as they are read. -/
theorem untilBroken_lines (lines : List (List UInt8)) :
    (Feed.untilBroken (lines.map (· ++ [lineFeed]))).1.filterMap Reading.change? =
      (lines.takeWhile isText).filterMap ownChange? := by
  induction lines with
  | nil => rfl
  | cons line lines ih =>
    rw [List.map_cons, Feed.untilBroken]
    cases hline : isText line with
    | false =>
      obtain ⟨reason, hreason⟩ := ofLine_of_not_isText hline
      rw [hreason, List.takeWhile_cons_of_neg (by simp [hline])]
      rfl
    | true =>
      obtain ⟨text, rfl⟩ := isText_iff.mp hline
      have hread : Reading.ofLine (Utf8.encode text ++ [lineFeed]) = Reading.ofText text := by
        rw [← encode_line, ofLine_encode_line]
      rw [hread, List.takeWhile_cons_of_pos hline]
      split
      · next reason hbroken => exact absurd hbroken (ofText_ne_broken text reason)
      · rw [List.filterMap_cons, List.filterMap_cons, ih, ownChange?_encode]
        rfl

theorem cutLines_lines {lines : List (List UInt8)} (h : ∀ line ∈ lines, lineFeed ∉ line) :
    cutLines (lines.flatMap (· ++ [lineFeed])) = (lines.map (· ++ [lineFeed]), []) := by
  induction lines with
  | nil => rfl
  | cons line lines ih =>
    have hrest := ih fun other hother => h other (List.mem_cons_of_mem line hother)
    rw [List.flatMap_cons, List.append_assoc, List.singleton_append,
      cutLines_append_cons (h line List.mem_cons_self), hrest]
    rfl

/-- Of an input of whole lines exactly those before the first line that is no text are read. So all
changes of single lines are there if and only if no line behind that one holds a change. -/
theorem changes_come_before_unreadable_line {lines : List (List UInt8)}
    (hlines : ∀ line ∈ lines, lineFeed ∉ line) {chunks : List (List UInt8)}
    (hread : chunks.flatten = lines.flatMap (· ++ [lineFeed])) :
    changes chunks .eof = (lines.takeWhile isText).filterMap ownChange? ∧
      (changes chunks .eof = lines.filterMap ownChange? ↔
        ∀ line ∈ lines.dropWhile isText, ownChange? line = none) := by
  have hchanges : changes chunks .eof = (lines.takeWhile isText).filterMap ownChange? := by
    have hfinish : ∀ isBroken, (Feed.mk [] isBroken).finish .eof = [] := by decide
    rw [changes, readings_eq, hread, cutLines_lines hlines, hfinish, List.append_nil,
      untilBroken_lines]
  refine ⟨hchanges, ?_⟩
  have hsplit : lines.filterMap ownChange? =
      (lines.takeWhile isText).filterMap ownChange? ++
        (lines.dropWhile isText).filterMap ownChange? := by
    rw [← List.filterMap_append, List.takeWhile_append_dropWhile]
  rw [hchanges, hsplit, List.self_eq_append_right, List.filterMap_eq_nil_iff]

/-- A change, a line that holds none, a change whose line ends with a carriage return, the first
byte of a character, and a blank line. The bytes are cut behind that byte. -/
theorem changes_before_half_a_character_come :
    let wifi := Utf8.encode "\x7b\"network_identity\":\"wifi\"\x7d".toList
    let lines := [wifi, [0x3f], wifi ++ [13], [0xc3], []]
    let bytes := lines.flatMap (· ++ [lineFeed])
    let chunks := [bytes.take 60, bytes.drop 60]
    (∀ line ∈ lines, lineFeed ∉ line) ∧ chunks.flatten = bytes ∧
      changes chunks .eof = [⟨⟨"wifi"⟩, []⟩, ⟨⟨"wifi"⟩, []⟩] ∧
      changes chunks .eof = lines.filterMap ownChange? := by
  intro wifi lines bytes chunks
  have hlines : ∀ line ∈ lines, lineFeed ∉ line := by decide +kernel
  have hread : chunks.flatten = bytes := by
    simp only [chunks, List.flatten_cons, List.flatten_nil, List.append_nil,
      List.take_append_drop]
  obtain ⟨hchanges, hall⟩ := changes_come_before_unreadable_line hlines hread
  refine ⟨hlines, hread, ?_, hall.mpr ?_⟩
  · rw [hchanges]
    decide +kernel
  · decide +kernel

/-- One byte that begins no character hides the change in the next line. -/
theorem unreadable_line_hides_change :
    let wifi := Utf8.encode "\x7b\"network_identity\":\"wifi\"\x7d".toList
    let lines := [[0xff], wifi]
    (∀ line ∈ lines, lineFeed ∉ line) ∧
      lines.filterMap ownChange? = [⟨⟨"wifi"⟩, []⟩] ∧
      changes [lines.flatMap (· ++ [lineFeed])] .eof = [] := by
  decide +kernel

end PathKeeper.Source
