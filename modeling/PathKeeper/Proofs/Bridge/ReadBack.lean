import PathKeeper.Proofs.Bridge.Ascii
import PathKeeper.Proofs.Bridge.Message
import PathKeeper.Proofs.Bridge.Writer
import PathKeeper.Proofs.Resolver.Canonical

/-!
# Reading back messages

What is written of some messages comes apart into one line for each, and each line is read back as
its message.
-/

namespace PathKeeper

set_option autoImplicit false

open Json (ReadsBack Value)

/-! ## Members -/

namespace Servers

theorem readsBack_value (servers : Servers) (depth : Nat) :
    ReadsBack (Json.readValue (depth + 1)) servers.write
      (.list (servers.map fun server => .string server.text)) := by
  rw [write_eq]
  apply Json.readsBack_listValue
  · intro server _
    exact Json.readsBack_stringValue depth server.text
  · intro server _
    exact Json.isItem_quote server.text

theorem ofValue_texts (servers : Servers) :
    ofValue (.list (servers.map fun server => .string server.text)) = .ok servers := by
  simp only [ofValue, Value.toList]
  induction servers with
  | nil => rfl
  | cons server rest ih =>
    rw [List.map_cons, List.mapM_cons, ih]
    simp only [server_text]
    rfl

end Servers

namespace Bridge.Message

/-- The members beside the type, each with the value that is read for it. -/
def members : Message → List ((String × List Char) × Value)
  | .setServers servers =>
    [(("servers", servers.write), .list (servers.map fun server => .string server.text))]
  | .reconnect => []
  | .setStatus status => [(("status", Json.quote status.name), .string status.name)]
  | .notify event => [(("event", Json.quote event.name), .string event.name)]

theorem body_eq (message : Message) : message.body = message.members.map Prod.fst := by
  cases message <;> rfl

theorem readsBack_of_mem_members {message : Message} {member : (String × List Char) × Value}
    (h : member ∈ message.members) :
    member.1.1 ≠ tag ∧ ReadsBack (Json.readValue (Json.maxDepth - 1)) member.1.2 member.2 := by
  cases message with
  | setServers servers =>
    rw [List.mem_singleton.mp h]
    exact ⟨by simp [tag], servers.readsBack_value _⟩
  | reconnect => cases h
  | setStatus status =>
    rw [List.mem_singleton.mp h]
    exact ⟨by simp [tag], Json.readsBack_stringValue _ _⟩
  | notify event =>
    rw [List.mem_singleton.mp h]
    exact ⟨by simp [tag], Json.readsBack_stringValue _ _⟩

theorem value_names (kind : Kind) : Kind.names.value kind.name = .ok kind := by
  cases kind <;> rfl

theorem ofBody_members (message : Message) :
    ofBody message.kind (.keyed (message.members.map fun member => (member.1.1, member.2))) =
      .ok message := by
  cases message with
  | setServers servers =>
    have hservers := servers.ofValue_texts
    simp [ofBody, members, kind, Json.Body.toField, Json.Body.findField, hservers, bind,
      Except.bind, Except.map]
  | reconnect => rfl
  | setStatus status => cases status <;> rfl
  | notify event => cases event <;> rfl

theorem readsBack_write (message : Message) : ReadsBack read message.write message := by
  have hkey : ∀ member ∈ message.members, member.1.1 ≠ tag :=
    fun member h => (readsBack_of_mem_members h).1
  have hread := Json.readsBack_tagged "Outbound" (value_names message.kind) hkey
    (fun member h => (readsBack_of_mem_members h).2)
  intro rest
  have hwrite : message.write = Json.writeObject ((tag, Json.quote message.kind.name) ::
      message.members.map fun member => (member.1.1, member.1.2)) := by
    rw [write, body_eq]
  rw [hwrite, read, hread rest]
  simp only [bind, Except.bind, ofBody_members]

/-- Every message is read back from its line. -/
theorem readWhole_write (message : Message) :
    Json.readWhole read message.write = .ok message := message.readsBack_write.readWhole

theorem write_setServers (servers : Servers) :
    (setServers servers).write =
      "\x7b\"type\":\"set_dns\",\"servers\":".toList ++ servers.write ++ ['\x7d'] := by
  have hhead : "\x7b\"type\":\"set_dns\",\"servers\":".toList =
      '\x7b' :: Json.writeMember (tag, Json.quote Kind.setServers.name) ++
        ',' :: (Json.quote "servers" ++ [':']) := by decide
  rw [hhead]
  simp [write, body, kind, Json.writeObject, Json.writeMember, Text.joined_cons_cons]

/-- Whatever messages a sink without limits takes, what it has taken is ASCII and comes apart into
one line for each message, which is read back as the message. A line of servers holds their list as
it is written by itself. -/
theorem stream_is_read_back (messages : List Message) {sink : Sink} (hsink : sink.TakesAll) :
    ∃ output lines, Bridge.write sink (messages.map line) = (output, .complete messages.length) ∧
      Text.pieces '\n' output = lines ++ [[]] ∧ Text.IsAscii output ∧
      lines.map (Json.readWhole read) = messages.map .ok ∧
      ∀ (k : Nat) (servers : Servers), messages[k]? = some (.setServers servers) →
        lines[k]? = some ("\x7b\"type\":\"set_dns\",\"servers\":".toList ++ servers.write ++
          ['\x7d']) := by
  refine ⟨messages.flatMap line, messages.map write, ?_, pieces_flatMap_line messages,
    Text.IsAscii.flatMap fun message _ => message.isAscii_line, ?_, ?_⟩
  · rw [hsink.write, List.length_map]
    rfl
  · rw [List.map_map]
    apply List.map_congr_left
    intro message _
    exact message.readWhole_write
  · intro k servers hk
    rw [List.getElem?_map, hk, Option.map_some, write_setServers]

/-- Servers with a gap, without one and with a mapped address, written three characters at a
time. -/
theorem three_messages_are_read_back :
    let servers : Servers := [.v4 ⟨192, 168, 0, 1⟩, .v6 ⟨[0xfe80, 0, 0, 0, 0, 0, 0, 1], rfl⟩,
      .v6 ⟨[0, 0, 0, 0, 0, 0xffff, 0x0102, 0x0304], rfl⟩]
    let messages : List Message := [.setServers servers, .reconnect, .notify .disconnected]
    let sink : Sink := ⟨none, some 3, .zero, none⟩
    sink.TakesAll ∧ ∃ output lines,
      Bridge.write sink (messages.map line) = (output, .complete 3) ∧
        Text.pieces '\n' output = lines ++ [[]] ∧
        lines.map (Json.readWhole read) = messages.map .ok ∧
        lines[0]? = some ("\x7b\"type\":\"set_dns\",\"servers\":" ++
          "[\"192.168.0.1\",\"fe80::1\",\"::ffff:1.2.3.4\"]\x7d").toList := by
  intro servers messages sink
  have hsink : sink.TakesAll := ⟨rfl, by simp [sink], rfl⟩
  obtain ⟨output, lines, hwrite, hpieces, -, hread, hservers⟩ := stream_is_read_back messages hsink
  refine ⟨hsink, output, lines, hwrite, hpieces, hread, ?_⟩
  rw [hservers 0 servers rfl]
  decide +kernel

end Bridge.Message

end PathKeeper
