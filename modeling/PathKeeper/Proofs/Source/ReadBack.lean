import Mathlib.Data.List.Basic
import PathKeeper.Proofs.Bridge.Message
import PathKeeper.Proofs.Json.ReadBack
import PathKeeper.Proofs.Source.Framing

/-!
# Reading back changes

Changes that are written as lines are read back from the bytes of the lines. Their strings may hold
anything: blanks and line ends in them are inside quotes, or escaped.
-/

namespace PathKeeper

set_option autoImplicit false

open Json (ReadsBack)

/-! ## One change -/

namespace Change

theorem readsBack_identity (id : Identity) (draft : Draft) :
    ReadsBack (identityField.read draft) id.write ⟨some id, draft.resolvers⟩ := by
  intro rest
  have hread := Json.readsBack_string .string id.token rest
  simp only [identityField, Identity.read, Identity.write, hread, bind, Except.bind]

theorem readsBack_resolvers (resolvers : List String) (draft : Draft) :
    ReadsBack (resolversField.read draft) (Json.writeList (resolvers.map Json.quote))
      ⟨draft.identity, some resolvers⟩ := by
  intro rest
  have hitem : ∀ text ∈ resolvers,
      ReadsBack (Json.readString .string) (Json.quote text) (id text) :=
    fun text _ => Json.readsBack_string .string text
  have hread := Json.readsBack_list hitem (fun text _ => Json.isItem_quote text) rest
  rw [List.map_id] at hread
  simp only [resolversField, hread, bind, Except.bind]

theorem readsBack_write (change : Change) : ReadsBack read change.write change := by
  obtain ⟨id, resolvers⟩ := change
  intro rest
  have hidentity : fields.find? (·.name == identityField.name) = some identityField := rfl
  have hresolvers : fields.find? (·.name == resolversField.name) = some resolversField := rfl
  have hrecord : Json.readRecord "NetworkChange" fields ⟨none, none⟩
      ((Change.mk id resolvers).write ++ rest) = .ok (⟨some id, some resolvers⟩, rest) :=
    Json.readRecord_pair hidentity hresolvers rfl rfl (readsBack_identity id _)
      (readsBack_resolvers resolvers _ _) rfl _
  simp only [read, hrecord, bind, Except.bind]
  rfl

theorem lineFeed_not_mem_write (change : Change) : '\n' ∉ change.write := by
  apply Json.lineFeed_not_mem_writeObject
  intro member hmember
  simp only [List.mem_cons, List.not_mem_nil, or_false] at hmember
  rcases hmember with rfl | rfl
  · exact Json.lineFeed_not_mem_quoteChars _
  · apply Json.lineFeed_not_mem_writeList
    intro item hitem
    obtain ⟨text, -, rfl⟩ := List.mem_map.mp hitem
    exact Json.lineFeed_not_mem_quoteChars _

/-- There are no blanks around the braces of a change. -/
theorem trim_write (change : Change) : Text.trim change.write = change.write := by
  obtain ⟨inner, hinner⟩ : ∃ inner, change.write = '\x7b' :: (inner ++ ['\x7d']) := ⟨_, rfl⟩
  have hopen : Text.isBlank '\x7b' = false := by decide
  have hclose : Text.isBlank '\x7d' = false := by decide
  simp [hinner, Text.trim, Text.trimEnd, hopen, hclose]

end Change

/-! ## Lines of changes -/

namespace Source

theorem changeOf?_of_trim {line : List Char} {change : Change}
    (h : Text.trim line = change.write) : changeOf? line = some change := by
  have hread : Json.readWhole Change.read change.write = .ok change :=
    change.readsBack_write.readWhole
  have hne : change.write ≠ [] := List.cons_ne_nil _ _
  simp only [changeOf?, Reading.ofText, decodeChars, h, hne, hread, if_false]
  rfl

/-- How a line may end. -/
inductive LineEnd where
  | lineFeed
  | carriageReturn
  deriving DecidableEq, Repr

/-- What stands between a line and its line feed. -/
def LineEnd.before : LineEnd → List Char
  | .lineFeed => []
  | .carriageReturn => ['\r']

/-- A change as a line. -/
def changeLine (entry : Change × LineEnd) : List Char :=
  entry.1.write ++ entry.2.before ++ ['\n']

theorem changeOf?_write (change : Change) (lineEnd : LineEnd) :
    changeOf? (change.write ++ lineEnd.before) = some change := by
  apply changeOf?_of_trim
  cases lineEnd with
  | lineFeed => rw [LineEnd.before, List.append_nil, change.trim_write]
  | carriageReturn =>
    rw [LineEnd.before, Text.trim_append_of_isBlank (by decide), change.trim_write]

theorem linesOf_flatMap_changeLine (entries : List (Change × LineEnd)) (rest : List Char) :
    linesOf (entries.flatMap changeLine ++ rest) =
      entries.map (fun entry => entry.1.write ++ entry.2.before) ++ linesOf rest := by
  induction entries with
  | nil => rfl
  | cons entry entries ih =>
    have hline : '\n' ∉ entry.1.write ++ entry.2.before := by
      have hbefore : '\n' ∉ entry.2.before := by cases entry.2 <;> decide
      simp [entry.1.lineFeed_not_mem_write, hbefore]
    have hsplit : (entry :: entries).flatMap changeLine ++ rest =
        (entry.1.write ++ entry.2.before) ++ '\n' :: (entries.flatMap changeLine ++ rest) := by
      simp [changeLine]
    rw [hsplit, linesOf, Text.pieces_append_cons hline, ← linesOf, ih]
    rfl

/-- Changes that are written one a line, each line with either end and the last one perhaps without,
come back as they were, whatever their strings hold and wherever the bytes are cut. -/
theorem written_changes_come_back (entries : List (Change × LineEnd)) (last : Option Change)
    {chunks : List (List UInt8)}
    (h : chunks.flatten = Text.Utf8.encode
      (entries.flatMap changeLine ++ (last.map Change.write).getD [])) :
    changes chunks .eof = entries.map Prod.fst ++ last.toList := by
  rw [changes_of_text h, linesOf_flatMap_changeLine, List.filterMap_append, List.filterMap_map]
  have hentries : entries.filterMap (changeOf? ∘ fun entry => entry.1.write ++ entry.2.before) =
      entries.map Prod.fst := by
    rw [← List.filterMap_eq_map]
    apply List.filterMap_congr
    intro entry _
    rw [Function.comp_apply, changeOf?_write]
    rfl
  have hlast : (linesOf ((last.map Change.write).getD [])).filterMap changeOf? = last.toList := by
    cases last with
    | none => decide +kernel
    | some change =>
      have hwritten := changeOf?_write change .lineFeed
      rw [LineEnd.before, List.append_nil] at hwritten
      rw [Option.map_some, Option.getD_some, linesOf,
        Text.pieces_of_not_mem change.lineFeed_not_mem_write, List.filterMap_cons_some hwritten]
      rfl
  rw [hentries, hlast]

/-- An identity of quotes, line ends and other blanks in a line with a carriage return, and a change
without resolvers at the end of the input. The bytes are cut inside an escape, inside a character
and between the ends of the line. -/
theorem two_changes_come_back :
    let entries : List (Change × LineEnd) :=
      [(⟨⟨"\"\\\r\n\u2028 "⟩, ["\t1.1.1.1", "caf\u00e9\x00"]⟩, .carriageReturn)]
    let last : Option Change := some ⟨⟨""⟩, []⟩
    let bytes := Text.Utf8.encode
      (entries.flatMap changeLine ++ (last.map Change.write).getD [])
    let chunks := [bytes.take 22, (bytes.drop 22).take 45, (bytes.drop 67).take 11, bytes.drop 78]
    chunks.flatten = bytes ∧
      changes chunks .eof =
        [⟨⟨"\"\\\r\n\u2028 "⟩, ["\t1.1.1.1", "caf\u00e9\x00"]⟩, ⟨⟨""⟩, []⟩] := by
  intro entries last bytes chunks
  have hchunks : chunks.flatten = bytes := by
    have hsecond : bytes.drop 67 = (bytes.drop 22).drop 45 := by rw [List.drop_drop]
    have hthird : bytes.drop 78 = (bytes.drop 67).drop 11 := by rw [List.drop_drop]
    simp only [chunks, List.flatten_cons, List.flatten_nil, List.append_nil, hthird,
      List.take_append_drop, hsecond]
  refine ⟨hchunks, ?_⟩
  rw [written_changes_come_back entries last hchunks]
  rfl

end Source

end PathKeeper
