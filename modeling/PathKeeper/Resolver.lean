import PathKeeper.Address.Reader
import PathKeeper.Address.Printer
import PathKeeper.Failure
import PathKeeper.Json.Reader
import PathKeeper.Text.Blank
import PathKeeper.Text.Lower

/-!
# Resolver entries

A platform reports resolvers as text, with blanks around it, in brackets or with a zone. An entry
is an address once these are removed; a policy decides what happens to a list with other entries.
-/

namespace PathKeeper

set_option autoImplicit false

namespace Resolver

/-- Drops the zone: the first percent sign and all behind it. -/
def stripZone (s : List Char) : List Char := s.takeWhile (· != '%')

/-- Drops a pair of brackets around a text. A single bracket stays. -/
def unbracket : List Char → List Char
  | '[' :: s => if s.getLast? = some ']' then s.dropLast else '[' :: s
  | s => s

/-- The part of an entry that names the host. -/
def host (raw : List Char) : List Char := stripZone (unbracket (Text.trim raw))

/-- Why an entry is no address. The entry is shown as it came. -/
inductive Fault where
  | noHost (raw : String)
  | malformed (raw : String)
  deriving DecidableEq, Repr

def Fault.detail : Fault → String
  | .noHost raw => s!"'{raw}' has no host component"
  | .malformed raw => s!"'{raw}': {Json.Fault.malformedAddress.message}"

def Fault.failure (fault : Fault) : Failure := .invalidAddress fault.detail

def parse (raw : String) : Except Fault Address :=
  if host raw.toList = [] then .error (.noHost raw)
  else
    match Address.read (host raw.toList) with
    | some address => .ok address
    | none => .error (.malformed raw)

end Resolver

/-- What happens to a change with an entry that is no address. -/
inductive Policy where
  /-- The entry is left out. -/
  | skip
  /-- The whole change is discarded. -/
  | reject
  deriving DecidableEq, Repr

namespace Policy

/-- The name in settings. -/
def name : Policy → String
  | .skip => "skip"
  | .reject => "reject"

def names : Json.Names Policy := [("skip_entry", .skip), ("reject_update", .reject)]

/-- The name in JSON. -/
def wireName : Policy → String
  | .skip => "skip_entry"
  | .reject => "reject_update"

/-- The policy of either name, however it is written. -/
def ofText (text : String) : Except Failure Policy :=
  match Text.lower (Text.trimmed text) with
  | "skip" => .ok .skip
  | "skip_entry" => .ok .skip
  | "reject" => .ok .reject
  | "reject_update" => .ok .reject
  | other => .error (.settings s!"Unknown malformed DNS policy '{other}'. Valid: skip, reject")

end Policy

abbrev Servers := List Address

namespace Resolver

/-- A normalized list, or why it is discarded. -/
abbrev Normalized := Except Fault Servers

def withServer (address : Address) : Normalized → Normalized
  | .ok servers => .ok (address :: servers)
  | .error fault => .error fault

/-- The addresses of the entries, in order. -/
def normalize (policy : Policy) : List String → Normalized
  | [] => .ok []
  | raw :: rest =>
    match parse raw, policy with
    | .ok address, _ => withServer address (normalize policy rest)
    | .error _, .skip => normalize policy rest
    | .error fault, .reject => .error fault

@[simp] theorem normalize_nil (policy : Policy) : normalize policy [] = .ok [] := rfl

/-- The faults of the entries that are left out. -/
def skipped (policy : Policy) (raws : List String) : List Fault :=
  match policy with
  | .skip => raws.filterMap fun raw =>
    match parse raw with
    | .ok _ => none
    | .error fault => some fault
  | .reject => []

end Resolver

namespace Servers

def text (servers : Servers) : String :=
  "[" ++ ", ".intercalate (servers.map Address.text) ++ "]"

end Servers

end PathKeeper
