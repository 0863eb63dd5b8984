import PathKeeper.Json.Value
import PathKeeper.Json.Writer
import PathKeeper.Resolver

/-!
# Networks

A change is what the platform reports: an identity and its resolvers as text. A snapshot is a
change whose resolvers have been normalized. Identities are opaque; only equality matters.
-/

namespace PathKeeper

set_option autoImplicit false

structure Identity where
  token : String
  deriving DecidableEq, Repr

namespace Identity

/-- The identity of a numeric network handle. -/
def ofHandle (handle : Nat) : Identity := ⟨toString handle⟩

def read : Json.Reader Identity := fun s => do
  let (token, s) ← Json.readString .string s
  .ok (⟨token⟩, s)

def write (id : Identity) : List Char := Json.quote id.token

end Identity

structure Change where
  identity : Identity
  resolvers : List String
  deriving DecidableEq, Repr

structure Snapshot where
  identity : Identity
  servers : Servers
  deriving DecidableEq, Repr

namespace Servers

def write (servers : Servers) : List Char :=
  Json.writeList (servers.map fun server => Json.quoteChars server.print)

/-- The address that a decoded string holds. -/
def server (text : String) : Except Json.Fault Address :=
  match Address.read text.toList with
  | some address => .ok address
  | none => .error .malformedAddress

def readServer : Json.Reader Address := fun s => do
  let (text, s) ← Json.readString .address s
  let address ← server text
  .ok (address, s)

def read : Json.Reader Servers := Json.readList readServer

/-- Decodes a list that was read as a value of unknown type. -/
def ofValue : Json.Value → Except Json.Fault Servers :=
  Json.Value.toList fun
    | .string text => server text
    | x => .error (.wrongType x.found .address)

end Servers

namespace Change

/-- The members of a change as far as they have been read. -/
structure Draft where
  identity : Option Identity
  resolvers : Option (List String)
  deriving DecidableEq, Repr

def identityField : Json.Field Draft where
  name := "network_identity"
  required := true
  filled draft := draft.identity.isSome
  read draft := fun s => do
    let (id, s) ← Identity.read s
    .ok (⟨some id, draft.resolvers⟩, s)

def resolversField : Json.Field Draft where
  name := "dns_servers"
  required := false
  filled draft := draft.resolvers.isSome
  read draft := fun s => do
    let (resolvers, s) ← Json.readList (Json.readString .string) s
    .ok (⟨draft.identity, some resolvers⟩, s)

def fields : List (Json.Field Draft) := [identityField, resolversField]

/-- Reads a change. The resolvers may be left out. -/
def read : Json.Reader Change := fun s => do
  let (draft, s) ← Json.readRecord "NetworkChange" fields ⟨none, none⟩ s
  match draft.identity with
  | some id => .ok (⟨id, draft.resolvers.getD []⟩, s)
  | none => .error (.missingField identityField.name)

def write (change : Change) : List Char :=
  Json.writeObject
    [(identityField.name, change.identity.write),
      (resolversField.name, Json.writeList (change.resolvers.map Json.quote))]

end Change

end PathKeeper
