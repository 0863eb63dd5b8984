import PathKeeper.Proofs.Text.Trim
import PathKeeper.Proofs.Text.Utf8
import PathKeeper.Source.Reading
import PathKeeper.Text.Pieces

/-!
# Framing

What an input brings depends on its bytes and not on the chunks in which they come, and for a text
it is what the lines of the text bring, one after another. The line feed and the carriage return at
the end of a line are blanks and do not matter.
-/

namespace PathKeeper.Source

set_option autoImplicit false

open Text

/-! ## Cutting -/

theorem cutLines_cons_lineFeed (s : List UInt8) :
    cutLines (lineFeed :: s) = ([lineFeed] :: (cutLines s).1, (cutLines s).2) := by
  rw [cutLines]
  rcases cutLines s with ⟨_ | ⟨line, lines⟩, rest⟩ <;> rfl

theorem cutLines_cons_of_ne {b : UInt8} (h : b ≠ lineFeed) (s : List UInt8) :
    cutLines (b :: s) =
      match (cutLines s).1 with
      | [] => ([], b :: (cutLines s).2)
      | line :: lines => ((b :: line) :: lines, (cutLines s).2) := by
  rw [cutLines]
  rcases cutLines s with ⟨_ | ⟨line, lines⟩, rest⟩
  · exact if_neg h
  · exact if_neg h

/-- Cutting goes on with what has been left over. -/
theorem cutLines_append (a b : List UInt8) :
    cutLines (a ++ b) =
      ((cutLines a).1 ++ (cutLines ((cutLines a).2 ++ b)).1,
        (cutLines ((cutLines a).2 ++ b)).2) := by
  induction a with
  | nil => rfl
  | cons c a ih =>
    rw [List.cons_append]
    by_cases hc : c = lineFeed
    · subst hc
      rw [cutLines_cons_lineFeed, cutLines_cons_lineFeed, ih]
      rfl
    · rw [cutLines_cons_of_ne hc, cutLines_cons_of_ne hc, ih]
      cases (cutLines a).1 with
      | nil => exact (cutLines_cons_of_ne hc _).symm
      | cons line lines => rfl

theorem cutLines_of_not_mem {s : List UInt8} (h : lineFeed ∉ s) : cutLines s = ([], s) := by
  induction s with
  | nil => rfl
  | cons b s ih =>
    simp only [List.mem_cons, not_or] at h
    simp [cutLines, ih h.2, Ne.symm h.1]

theorem cutLines_append_cons {a : List UInt8} (h : lineFeed ∉ a) (s : List UInt8) :
    cutLines (a ++ lineFeed :: s) = ((a ++ [lineFeed]) :: (cutLines s).1, (cutLines s).2) := by
  have hline : cutLines (a ++ [lineFeed]) = ([a ++ [lineFeed]], []) := by
    induction a with
    | nil => rfl
    | cons b a ih =>
      simp only [List.mem_cons, not_or] at h
      simp [cutLines, ih h.2, Ne.symm h.1]
  have hsplit : a ++ lineFeed :: s = (a ++ [lineFeed]) ++ s := by simp
  rw [hsplit, cutLines_append, hline]
  rfl

/-! ## Feeding -/

/-- Reading stops at the first line that is no text. -/
theorem untilBroken_append (front back : List (List UInt8)) :
    Feed.untilBroken (front ++ back) =
      if (Feed.untilBroken front).2 then Feed.untilBroken front
      else ((Feed.untilBroken front).1 ++ (Feed.untilBroken back).1,
        (Feed.untilBroken back).2) := by
  induction front with
  | nil => rfl
  | cons line front ih =>
    rw [List.cons_append, Feed.untilBroken, Feed.untilBroken]
    split
    · rfl
    · rw [ih]
      cases (Feed.untilBroken front).2 <;> rfl

theorem takeAll_of_isBroken {feed : Feed} (h : feed.isBroken = true) (chunks : List (List UInt8)) :
    feed.takeAll chunks = ([], feed) := by
  induction chunks with
  | nil => rfl
  | cons chunk chunks ih => simp [Feed.takeAll, Feed.take, h, ih]

/-- Taking in chunks is taking in all of their bytes. -/
theorem takeAll_flatten {unfinished : List UInt8} (h : lineFeed ∉ unfinished)
    (chunks : List (List UInt8)) :
    let cut := cutLines (unfinished ++ chunks.flatten)
    let taken := (Feed.mk unfinished false).takeAll chunks
    taken.1 = (Feed.untilBroken cut.1).1 ∧ taken.2.isBroken = (Feed.untilBroken cut.1).2 ∧
      (taken.2.isBroken = false → taken.2.unfinished = cut.2) := by
  induction chunks generalizing unfinished with
  | nil => simp [cutLines_of_not_mem h, Feed.takeAll, Feed.untilBroken]
  | cons chunk chunks ih =>
    intro cut taken
    have hcut : cut = cutLines ((unfinished ++ chunk) ++ chunks.flatten) := by
      simp only [cut, List.flatten_cons, List.append_assoc]
    rw [cutLines_append] at hcut
    have htake : (Feed.mk unfinished false).take chunk =
        ((Feed.untilBroken (cutLines (unfinished ++ chunk)).1).1,
          ⟨(cutLines (unfinished ++ chunk)).2,
            (Feed.untilBroken (cutLines (unfinished ++ chunk)).1).2⟩) := rfl
    have htaken : taken = (_ ++ (Feed.takeAll chunks _).1, (Feed.takeAll chunks _).2) := rfl
    rw [htake] at htaken
    simp only [hcut, untilBroken_append]
    cases hbroken : (Feed.untilBroken (cutLines (unfinished ++ chunk)).1).2 with
    | true =>
      rw [hbroken, takeAll_of_isBroken rfl] at htaken
      simp [htaken, hbroken]
    | false =>
      obtain ⟨hreadings, hisBroken, hrest⟩ := ih (lineFeed_not_mem_rest (unfinished ++ chunk))
      rw [hbroken] at htaken
      simp only [htaken, hreadings]
      exact ⟨rfl, hisBroken, hrest⟩

theorem finish_of_isBroken {feed : Feed} (h : feed.isBroken = true) (ending : Ending) :
    feed.finish ending = [] := by
  simp [Feed.finish, h]

/-- What an input brings depends on its bytes only. -/
theorem readings_eq (chunks : List (List UInt8)) (ending : Ending) :
    let cut := cutLines chunks.flatten
    let read := Feed.untilBroken cut.1
    readings chunks ending = read.1 ++ (Feed.mk cut.2 read.2).finish ending := by
  intro cut read
  obtain ⟨hreadings, hisBroken, hrest⟩ := takeAll_flatten List.not_mem_nil chunks
  change (Feed.takeAll chunks ⟨[], false⟩).1 ++
    (Feed.takeAll chunks ⟨[], false⟩).2.finish ending = _
  rw [hreadings]
  apply congrArg (read.1 ++ ·)
  generalize (Feed.takeAll chunks ⟨[], false⟩).2 = feed at hisBroken hrest
  obtain ⟨unfinished, isBroken⟩ := feed
  cases hisBroken
  cases hread : read.2 with
  | true => rw [finish_of_isBroken hread, finish_of_isBroken rfl]
  | false =>
    have hunfinished : unfinished = cut.2 := hrest hread
    rw [hunfinished]
    exact congrArg (fun isBroken => (Feed.mk cut.2 isBroken).finish ending) hread

/-! ## Lines of texts -/

/-- The lines of a text, without their ends. The last one may be empty. -/
def linesOf (text : List Char) : List (List Char) := pieces '\n' text

theorem linesOf_ne_nil (text : List Char) : linesOf text ≠ [] := pieces_ne_nil '\n' text

def changeOf? (line : List Char) : Option Change := (Reading.ofText line).change?

theorem changeOf?_eq_decodeLine (line : List Char) :
    changeOf? line = (decodeLine (String.ofList line)).toOption.join := by
  simp only [changeOf?, Reading.ofText, decodeLine, String.toList_ofList]
  cases hdecode : decodeChars line with
  | ok change => cases change <;> rfl
  | error fault => rfl

/-- A text is cut at its first line feed. -/
theorem text_induction {motive : List Char → Prop} (last : ∀ s, '\n' ∉ s → motive s)
    (line : ∀ a s, '\n' ∉ a → motive s → motive (a ++ '\n' :: s)) (text : List Char) :
    motive text := by
  induction hlength : text.length using Nat.strongRecOn generalizing text with
  | _ n ih =>
    by_cases hmem : '\n' ∈ text
    · obtain ⟨a, s, rfl, ha⟩ := List.eq_append_cons_of_mem hmem
      refine line a s ha (ih s.length ?_ s rfl)
      rw [← hlength, List.length_append, List.length_cons]
      omega
    · exact last text hmem

theorem encode_line (line : List Char) :
    Utf8.encode (line ++ ['\n']) = Utf8.encode line ++ [lineFeed] := Utf8.encode_append line ['\n']

/-- The bytes of a text are cut where the text has its lines. -/
theorem cutLines_encode (text : List Char) :
    cutLines (Utf8.encode text) =
      ((linesOf text).dropLast.map fun line => Utf8.encode (line ++ ['\n']),
        Utf8.encode ((linesOf text).getLast (linesOf_ne_nil text))) := by
  induction text using text_induction with
  | last s hs =>
    have hpieces : linesOf s = [s] := pieces_of_not_mem hs
    simp only [hpieces, cutLines_of_not_mem (Utf8.not_mem_encode_ten hs)]
    rfl
  | line a s ha ih =>
    have hpieces : linesOf (a ++ '\n' :: s) = a :: linesOf s := pieces_append_cons ha s
    have hencode : Utf8.encode (a ++ '\n' :: s) = Utf8.encode a ++ lineFeed :: Utf8.encode s :=
      Utf8.encode_append a ('\n' :: s)
    have hne : linesOf s ≠ [] := linesOf_ne_nil s
    simp only [hpieces, List.getLast_cons hne, List.dropLast_cons_of_ne_nil hne, List.map_cons,
      encode_line]
    rw [hencode, cutLines_append_cons (Utf8.not_mem_encode_ten ha), ih]
    simp only [encode_line]

/-! ## Readings of texts -/

theorem trim_stripEnd (line : List Char) : trim (stripEnd line) = trim line := by
  unfold stripEnd
  split
  · next s hs =>
    have hline : line = s.reverse ++ ['\r'] ++ ['\n'] := by
      rw [← List.reverse_reverse line, hs]
      simp
    rw [hline, trim_append_of_isBlank rfl, trim_append_of_isBlank rfl]
  · next s hs hs' =>
    have hline : line = s.reverse ++ ['\n'] := by
      rw [← List.reverse_reverse line, hs']
      simp
    rw [hline, trim_append_of_isBlank rfl]
  · rfl

theorem ofText_congr {a b : List Char} (h : trim a = trim b) :
    Reading.ofText a = Reading.ofText b := by
  simp only [Reading.ofText, decodeChars, h]

theorem ofLine_encode (line : List Char) :
    Reading.ofLine (Utf8.encode line) = Reading.ofText line := by
  simp only [Reading.ofLine, lineText, Utf8.decode_encode]
  exact ofText_congr (trim_stripEnd line)

theorem ofLine_encode_line (line : List Char) :
    Reading.ofLine (Utf8.encode (line ++ ['\n'])) = Reading.ofText line :=
  (ofLine_encode _).trans (ofText_congr (trim_append_of_isBlank rfl line))

theorem ofText_ne_broken (text : List Char) (reason : String) :
    Reading.ofText text ≠ .broken reason := by
  unfold Reading.ofText
  split <;> simp

theorem untilBroken_encode (lines : List (List Char)) :
    Feed.untilBroken (lines.map fun line => Utf8.encode (line ++ ['\n'])) =
      (lines.map Reading.ofText, false) := by
  induction lines with
  | nil => rfl
  | cons line lines ih =>
    rw [List.map_cons, Feed.untilBroken, ofLine_encode_line, ih]
    split
    · next reason hbroken => exact absurd hbroken (ofText_ne_broken line reason)
    · rfl

/-- Input whose whole lines are those of texts brings their changes. -/
theorem changes_of_lines {chunks : List (List UInt8)} {lines : List (List Char)}
    (h : (cutLines chunks.flatten).1 = lines.map fun line => Utf8.encode (line ++ ['\n']))
    (ending : Ending) :
    changes chunks ending =
      lines.filterMap changeOf? ++
        ((Feed.mk (cutLines chunks.flatten).2 false).finish ending).filterMap Reading.change? := by
  unfold changes
  rw [readings_eq, h, untilBroken_encode, List.filterMap_append, List.filterMap_map]
  rfl

/-- Text that is read to the end of a file brings the changes of all of its lines. -/
theorem changes_of_text {text : List Char} {chunks : List (List UInt8)}
    (h : chunks.flatten = Utf8.encode text) :
    changes chunks .eof = (linesOf text).filterMap changeOf? := by
  have hcut := cutLines_encode text
  rw [← h] at hcut
  rw [changes_of_lines (congrArg Prod.fst hcut), hcut]
  have hlast : ((Feed.mk (Utf8.encode ((linesOf text).getLast (linesOf_ne_nil text)))
      false).finish .eof).filterMap Reading.change? =
        [(linesOf text).getLast (linesOf_ne_nil text)].filterMap changeOf? := by
    generalize (linesOf text).getLast (linesOf_ne_nil text) = last
    cases last with
    | nil => rfl
    | cons c last =>
      have hne : Utf8.encode (c :: last) ≠ [] := by
        simp [Utf8.encode, String.utf8EncodeChar_ne_nil]
      simp only [Feed.finish, hne, ofLine_encode]
      rfl
  rw [hlast, ← List.filterMap_append, List.dropLast_concat_getLast]

end PathKeeper.Source
