import PathKeeper.Session.Command

/-!
# Messages over the bridge

An engine in another process is driven by lines of JSON, one message a line. The member `type`
names the message.
-/

namespace PathKeeper.Bridge

set_option autoImplicit false

inductive Message where
  | setServers (servers : Servers)
  | reconnect
  | setStatus (status : SessionStatus)
  | notify (event : StatusEvent)
  deriving DecidableEq, Repr

namespace Message

def ofCommand : Command → Message
  | .setServers servers => .setServers servers
  | .reconnect => .reconnect
  | .setStatus status => .setStatus status

inductive Kind where
  | setServers | reconnect | setStatus | notify
  deriving DecidableEq, Repr

def Kind.name : Kind → String
  | .setServers => "set_dns"
  | .reconnect => "reconnect"
  | .setStatus => "status"
  | .notify => "notify"

def Kind.names : Json.Names Kind :=
  [Kind.setServers, .reconnect, .setStatus, .notify].map fun kind => (kind.name, kind)

def kind : Message → Kind
  | .setServers _ => .setServers
  | .reconnect => .reconnect
  | .setStatus _ => .setStatus
  | .notify _ => .notify

/-- The members beside the type. -/
def body : Message → List (String × List Char)
  | .setServers servers => [("servers", servers.write)]
  | .reconnect => []
  | .setStatus status => [("status", Json.quote status.name)]
  | .notify event => [("event", Json.quote event.name)]

/-- The name of the member that holds the type. -/
def tag : String := "type"

def write (message : Message) : List Char :=
  Json.writeObject ((tag, Json.quote message.kind.name) :: message.body)

/-- Decodes the members of a message of known type. -/
def ofBody (kind : Kind) (body : Json.Body) : Except Json.Fault Message :=
  match kind with
  | .setServers =>
    (body.toField "Outbound::SetDns" "servers" Servers.ofValue).map .setServers
  | .reconnect => body.toNothing.map fun () => .reconnect
  | .setStatus =>
    (body.toField "Outbound::Status" "status" (Json.Value.toName SessionStatus.names)).map
      .setStatus
  | .notify =>
    (body.toField "Outbound::Notify" "event" (Json.Value.toName StatusEvent.names)).map .notify

def read : Json.Reader Message := fun s => do
  let ((kind, body), s) ← Json.readTagged "Outbound" tag Kind.names s
  let message ← ofBody kind body
  .ok (message, s)

def line (message : Message) : List Char := message.write ++ ['\n']

/-- The message as a log shows it. -/
def text : Message → String
  | .setServers servers => s!"SetDns \x7b servers: DnsServers({servers.text}) \x7d"
  | .reconnect => "Reconnect"
  | .setStatus status => s!"Status \x7b status: {status.title} \x7d"
  | .notify event => s!"Notify \x7b event: {event.title} \x7d"

end Message

end PathKeeper.Bridge
