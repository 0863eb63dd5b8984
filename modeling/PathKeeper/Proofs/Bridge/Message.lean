import PathKeeper.Bridge.Message

/-!
# One line for a message

No JSON that is written holds a line feed, since a string literal escapes it. So messages that are
written as lines stay apart.
-/

namespace PathKeeper

set_option autoImplicit false

/-! ## Written JSON -/

namespace Json

theorem hexChar_ne_lineFeed (n : Nat) : hexChar n ≠ '\n' := by
  have hdigits : ∀ m < 16, Nat.digitChar m ≠ '\n' := by decide
  exact hdigits (n % 16) (Nat.mod_lt n (by decide))

theorem lineFeed_not_mem_escapeChar (c : Char) : '\n' ∉ escapeChar c := by
  unfold escapeChar
  split
  case h_8 hlineFeed hreturn htab =>
    split
    · simp [(hexChar_ne_lineFeed _).symm]
    · simpa using Ne.symm hlineFeed
  all_goals decide

theorem lineFeed_not_mem_quoteChars (s : List Char) : '\n' ∉ quoteChars s := by
  simp [quoteChars, lineFeed_not_mem_escapeChar]

theorem lineFeed_not_mem_joined {items : List (List Char)} (h : ∀ item ∈ items, '\n' ∉ item) :
    '\n' ∉ Text.joined [','] items := by
  intro hmem
  rcases Text.mem_joined hmem with hsep | ⟨item, hitem, hinside⟩
  · simp at hsep
  · exact h item hitem hinside

theorem lineFeed_not_mem_writeList {items : List (List Char)} (h : ∀ item ∈ items, '\n' ∉ item) :
    '\n' ∉ writeList items := by
  simp [writeList, lineFeed_not_mem_joined h]

theorem lineFeed_not_mem_writeObject {members : List (String × List Char)}
    (h : ∀ member ∈ members, '\n' ∉ member.2) : '\n' ∉ writeObject members := by
  have hmembers : ∀ item ∈ members.map writeMember, '\n' ∉ item := by
    intro item hitem
    obtain ⟨⟨key, value⟩, hmember, rfl⟩ := List.mem_map.mp hitem
    have hvalue : '\n' ∉ value := h (key, value) hmember
    simp [writeMember, quote, lineFeed_not_mem_quoteChars, hvalue]
  simp [writeObject, lineFeed_not_mem_joined hmembers]

end Json

/-! ## Lines of messages -/

namespace Bridge.Message

theorem lineFeed_not_mem_write (message : Message) : '\n' ∉ message.write := by
  apply Json.lineFeed_not_mem_writeObject
  intro member hmember
  rcases List.mem_cons.mp hmember with rfl | hbody
  · exact Json.lineFeed_not_mem_quoteChars _
  · cases message with
    | setServers servers =>
      rw [List.mem_singleton.mp hbody]
      apply Json.lineFeed_not_mem_writeList
      intro item hitem
      obtain ⟨server, -, rfl⟩ := List.mem_map.mp hitem
      exact Json.lineFeed_not_mem_quoteChars server.print
    | reconnect => cases hbody
    | setStatus status =>
      rw [List.mem_singleton.mp hbody]
      exact Json.lineFeed_not_mem_quoteChars _
    | notify event =>
      rw [List.mem_singleton.mp hbody]
      exact Json.lineFeed_not_mem_quoteChars _

theorem pieces_flatMap_line (messages : List Message) :
    Text.pieces '\n' (messages.flatMap line) = messages.map write ++ [[]] := by
  induction messages with
  | nil => rfl
  | cons message messages ih =>
    have hsplit : (message :: messages).flatMap line =
        message.write ++ '\n' :: messages.flatMap line := by
      simp [line]
    rw [hsplit, Text.pieces_append_cons message.lineFeed_not_mem_write, ih]
    rfl

end Bridge.Message

end PathKeeper
