import PathKeeper.Bridge.Message
import PathKeeper.Proofs.Text.Ascii

/-!
# ASCII on the bridge

Names, addresses and punctuation are all that messages are written with, so every line is ASCII.
-/

namespace PathKeeper

set_option autoImplicit false

open Text (IsAscii)

/-! ## Addresses -/

theorem V4.isAscii_print (x : V4) : IsAscii x.print := by
  apply IsAscii.joined
  · simp [IsAscii]
  · intro part hpart
    obtain ⟨octet, -, rfl⟩ := List.mem_map.mp hpart
    exact IsAscii.toDigits (by decide) (by decide) _

theorem isAscii_printGroups (gs : List UInt16) : IsAscii (printGroups gs) := by
  apply IsAscii.joined
  · simp [IsAscii]
  · intro part hpart
    obtain ⟨g, -, rfl⟩ := List.mem_map.mp hpart
    exact IsAscii.toDigits (by decide) (by decide) _

theorem V6.isAscii_print (x : V6) : IsAscii x.print := by
  unfold print
  split
  · next y _ => exact IsAscii.append (by simp [IsAscii]) y.isAscii_print
  split
  · exact ((isAscii_printGroups _).append (by simp [IsAscii])).append (isAscii_printGroups _)
  · exact isAscii_printGroups _

theorem Address.isAscii_print (x : Address) : IsAscii x.print := by
  cases x with
  | v4 x => exact x.isAscii_print
  | v6 x => exact x.isAscii_print

/-! ## Written JSON -/

namespace Json

theorem isAscii_escapeChar {c : Char} (h : c.toNat < 0x80) : IsAscii (escapeChar c) := by
  have hdigits : ∀ d < 16, d.digitChar.toNat < 0x80 := by decide
  have hhex (n : Nat) : (hexChar n).toNat < 0x80 := hdigits _ (Nat.mod_lt n (by decide))
  unfold escapeChar
  split
  case h_8 =>
    split
    · simp [IsAscii, hhex]
    · simpa [IsAscii] using h
  all_goals simp [IsAscii]

theorem isAscii_quoteChars {s : List Char} (h : IsAscii s) : IsAscii (quoteChars s) := by
  have hescaped : IsAscii (s.flatMap escapeChar) :=
    IsAscii.flatMap fun c hc => isAscii_escapeChar (h c hc)
  exact IsAscii.cons (by decide) (hescaped.append (by simp [IsAscii]))

theorem isAscii_writeList {items : List (List Char)} (h : ∀ item ∈ items, IsAscii item) :
    IsAscii (writeList items) := by
  have hjoined : IsAscii (Text.joined [','] items) := IsAscii.joined (by simp [IsAscii]) h
  exact IsAscii.cons (by decide) (hjoined.append (by simp [IsAscii]))

theorem isAscii_writeObject {members : List (String × List Char)}
    (h : ∀ member ∈ members, IsAscii member.1.toList ∧ IsAscii member.2) :
    IsAscii (writeObject members) := by
  have hmembers : ∀ item ∈ members.map writeMember, IsAscii item := by
    intro item hitem
    obtain ⟨⟨key, value⟩, hmember, rfl⟩ := List.mem_map.mp hitem
    obtain ⟨hkey, hvalue⟩ := h (key, value) hmember
    exact (isAscii_quoteChars hkey).append (hvalue.cons (by decide))
  have hjoined : IsAscii (Text.joined [','] (members.map writeMember)) :=
    IsAscii.joined (by simp [IsAscii]) hmembers
  exact IsAscii.cons (by decide) (hjoined.append (by simp [IsAscii]))

end Json

/-! ## Messages -/

namespace Bridge.Message

theorem Kind.isAscii_name (kind : Kind) : IsAscii kind.name.toList := by
  cases kind <;> simp [IsAscii, Kind.name]

theorem isAscii_write (message : Message) : IsAscii message.write := by
  apply Json.isAscii_writeObject
  intro member hmember
  rcases List.mem_cons.mp hmember with rfl | hbody
  · exact ⟨by simp [IsAscii, tag], Json.isAscii_quoteChars message.kind.isAscii_name⟩
  · cases message with
    | setServers servers =>
      rw [List.mem_singleton.mp hbody]
      refine ⟨by simp [IsAscii], Json.isAscii_writeList ?_⟩
      intro item hitem
      obtain ⟨server, -, rfl⟩ := List.mem_map.mp hitem
      exact Json.isAscii_quoteChars server.isAscii_print
    | reconnect => cases hbody
    | setStatus status =>
      rw [List.mem_singleton.mp hbody]
      refine ⟨by simp [IsAscii], Json.isAscii_quoteChars ?_⟩
      cases status <;> simp [IsAscii, SessionStatus.name]
    | notify event =>
      rw [List.mem_singleton.mp hbody]
      refine ⟨by simp [IsAscii], Json.isAscii_quoteChars ?_⟩
      cases event <;> simp [IsAscii, StatusEvent.name]

theorem isAscii_line (message : Message) : IsAscii message.line :=
  message.isAscii_write.append (by simp [IsAscii])

end Bridge.Message

end PathKeeper
