import PathKeeper.Network
import PathKeeper.Proofs.Address.ReadBack
import PathKeeper.Proofs.Json.ReadBack
import PathKeeper.Proofs.Resolver.Grammar

/-!
# Canonical lists of servers

An address is parsed from its canonical text, so a list of servers is what normalizing the texts of
its addresses comes to, under either policy. It is also what is read from its JSON, so the JSON of
two lists tells whether they are the same.
-/

namespace PathKeeper

set_option autoImplicit false

open Json (ReadsBack)

namespace Resolver

theorem names_self (host : List Char) : Names host host :=
  ⟨[], host, [], Text.allBlank_nil, Text.allBlank_nil, .bare .alone, by simp⟩

theorem parse_text (address : Address) : parse address.text = .ok address := by
  have hnames : Names address.print address.text.toList := by
    rw [Address.text, String.toList_ofList]
    exact names_self address.print
  exact parse_of_names hnames address.spells_print

theorem normalize_texts (policy : Policy) (servers : Servers) :
    normalize policy (servers.map Address.text) = .ok servers := by
  induction servers with
  | nil => rfl
  | cons address rest ih =>
    simp only [List.map_cons, normalize, parse_text, ih]
    rfl

end Resolver

namespace Servers

theorem write_eq (servers : Servers) :
    servers.write = Json.writeList (servers.map fun server => Json.quote server.text) := by
  have hquote (server : Address) : Json.quoteChars server.print = Json.quote server.text := by
    simp [Json.quote, Address.text]
  simp only [write, hquote]

theorem server_text (server : Address) : Servers.server server.text = .ok server := by
  simp [Servers.server, Address.text, Address.read_print]

theorem readsBack_server (server : Address) :
    ReadsBack readServer (Json.quote server.text) server := by
  intro rest
  have hread := Json.readsBack_string .address server.text rest
  simp only [readServer, hread, bind, Except.bind, server_text]

theorem readsBack_write (servers : Servers) : ReadsBack read servers.write servers := by
  have hitem : ∀ server ∈ servers, ReadsBack readServer (Json.quote server.text) (id server) :=
    fun server _ => readsBack_server server
  have hlist := Json.readsBack_list hitem fun server _ => Json.isItem_quote server.text
  rwa [List.map_id, ← write_eq] at hlist

theorem write_inj {servers others : Servers} : servers.write = others.write ↔ servers = others := by
  constructor
  · intro h
    have hservers := servers.readsBack_write.readWhole
    have hothers := others.readsBack_write.readWhole
    rw [h, hothers] at hservers
    exact (Except.ok.inj hservers).symm
  · rintro rfl
    rfl

/-- Canonical texts are parsed as their addresses. Any list of servers, and so any that normalizing
gives, is given by its own texts again under both policies and read back from its JSON, and two
lists are equal exactly if their JSON is. -/
theorem servers_are_canonical :
    (∀ address : Address, Resolver.parse address.text = .ok address) ∧
      (∀ (policy : Policy) (servers : Servers),
        Resolver.normalize policy (servers.map Address.text) = .ok servers) ∧
      (∀ servers : Servers, Json.readWhole read servers.write = .ok servers) ∧
      ∀ servers others : Servers, servers.write = others.write ↔ servers = others := by
  refine ⟨Resolver.parse_text, Resolver.normalize_texts, ?_, ?_⟩
  · intro servers
    exact servers.readsBack_write.readWhole
  · intro servers others
    exact write_inj

end Servers

end PathKeeper
