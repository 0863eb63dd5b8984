import PathKeeper.Bridge.Message
import PathKeeper.Failure
import PathKeeper.Log

/-!
# The queue of the bridge

Messages wait for the writer in a queue without limit. Once the writer is gone messages are
dropped, with a warning.
-/

namespace PathKeeper.Bridge

set_option autoImplicit false

structure Queue where
  isOpen : Bool
  messages : List Message
  deriving DecidableEq, Repr

namespace Queue

def empty : Queue := ⟨true, []⟩

def send (message : Message) (queue : Queue) : Queue :=
  if queue.isOpen then { queue with messages := queue.messages ++ [message] } else queue

theorem send_of_open {queue : Queue} (h : queue.isOpen = true) (message : Message) :
    queue.send message = ⟨true, queue.messages ++ [message]⟩ := by
  obtain ⟨isOpen, messages⟩ := queue
  simp only at h
  subst h
  rfl

theorem send_of_closed {queue : Queue} (h : queue.isOpen = false) (message : Message) :
    queue.send message = queue := by
  simp [send, h]

/-- The warning about a message that is dropped. -/
def warning (message : Message) (queue : Queue) : List Log.Entry :=
  if queue.isOpen then []
  else
    [Log.warn (Failure.session s!"bridge writer closed, dropped {message.text}").message]

/-- The writer goes away, and what it had not taken with it. -/
def close (_queue : Queue) : Queue := ⟨false, []⟩

/-- What a session on the bridge logs about a command before it is sent. -/
def remark : Command → List Log.Entry
  | .setServers servers => [Log.debug s!"Bridging set_dns [{servers.text}]"]
  | .reconnect => [Log.debug "Bridging reconnect"]
  | .setStatus _ => []

def commandEntries (command : Command) (queue : Queue) : List Log.Entry :=
  remark command ++ queue.warning (.ofCommand command)

end Queue

end PathKeeper.Bridge
