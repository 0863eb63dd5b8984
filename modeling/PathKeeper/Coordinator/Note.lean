import PathKeeper.Log
import PathKeeper.Network
import PathKeeper.Status

/-!
# Notes

What a coordinator writes to the log.
-/

namespace PathKeeper.Coordinator

set_option autoImplicit false

inductive Note where
  /-- The state is taken over from an operation that was cut short. -/
  | recovered
  | busy (identity : Identity)
  | eventLost
  | noSession (identity : Identity)
  | entrySkipped (fault : Resolver.Fault)
  | changeRejected (identity : Identity) (fault : Resolver.Fault)
  | serversChanged (servers : Servers)
  | networkChanged (identity : Identity)
  | nothingChanged (identity : Identity)
  | statusMoved (before after : SessionStatus)
  | attached
  | detached
  | nothingToDetach
  | reconnectIgnored
  | errorIgnored (reason : String)
  | errorReported (reason : String)
  deriving DecidableEq, Repr

namespace Note

def entry : Note → Log.Entry
  | .recovered => Log.warn "Coordinator lock poisoned, recovering last committed state"
  | .busy id => Log.debug s!"Coordinator busy, dropping network change for {id.token}"
  | .eventLost =>
    Log.warn ("Event channel full, dropping coordinator event. " ++
      "Consider increasing event_channel_capacity.")
  | .noSession id =>
    Log.debug s!"No tunnel session attached, ignoring network change for {id.token}"
  | .entrySkipped fault =>
    Log.warn s!"Skipping malformed DNS entry: {fault.failure.message}"
  | .changeRejected id fault =>
    Log.warn s!"Rejecting network change for {id.token}: {fault.failure.message}"
  | .serversChanged servers => Log.info s!"DNS servers changed: {servers.text}"
  | .networkChanged id => Log.info s!"Network changed to {id.token}, reconnecting"
  | .nothingChanged id => Log.debug s!"Network change for {id.token} is a no-op"
  | .statusMoved before after =>
    Log.info s!"Session status {before.name} -> {after.name}"
  | .attached => Log.info "Tunnel session attached"
  | .detached => Log.info "Tunnel session detached"
  | .nothingToDetach => Log.debug "detach_session called without an attached session"
  | .reconnectIgnored => Log.debug "mark_reconnecting ignored: no tunnel session attached"
  | .errorIgnored reason =>
    Log.debug s!"mark_error ignored: no tunnel session attached ({reason})"
  | .errorReported reason => Log.warn s!"Tunnel session error: {reason}"

end Note

end PathKeeper.Coordinator
