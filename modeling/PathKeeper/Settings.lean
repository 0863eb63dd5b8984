import PathKeeper.Json.Writer
import PathKeeper.Resolver

/-!
# Settings of a coordinator

The policy for malformed entries and the capacity of the event channel.
-/

namespace PathKeeper

set_option autoImplicit false

structure Settings where
  policy : Policy
  eventCapacity : Nat
  deriving DecidableEq, Repr

namespace Settings

def default : Settings := ⟨.skip, 1000⟩

/-- The settings are refused if no event fits into the channel. -/
def validate (settings : Settings) : Except Failure Unit :=
  if settings.eventCapacity = 0 then .error (.settings "event_channel_capacity must be > 0")
  else .ok ()

/-- The members of settings as far as they have been read. -/
structure Draft where
  policy : Option Policy
  eventCapacity : Option Nat
  deriving DecidableEq, Repr

def policyField : Json.Field Draft where
  name := "malformed_dns"
  required := false
  filled draft := draft.policy.isSome
  read draft := fun s => do
    let (policy, s) ← Json.readName Policy.names s
    .ok (⟨some policy, draft.eventCapacity⟩, s)

def capacityField : Json.Field Draft where
  name := "event_channel_capacity"
  required := false
  filled draft := draft.eventCapacity.isSome
  read draft := fun s => do
    let (capacity, s) ← Json.readUnsigned s
    .ok (⟨draft.policy, some capacity⟩, s)

def fields : List (Json.Field Draft) := [policyField, capacityField]

/-- Reads settings. What is left out has its default. -/
def read : Json.Reader Settings := fun s => do
  let (draft, s) ← Json.readRecord "CoordinatorConfig" fields ⟨none, none⟩ s
  .ok (⟨draft.policy.getD default.policy, draft.eventCapacity.getD default.eventCapacity⟩, s)

def write (settings : Settings) : List Char :=
  Json.writeObject
    [(policyField.name, Json.quote settings.policy.wireName),
      (capacityField.name, Json.natural settings.eventCapacity)]

end Settings

end PathKeeper
