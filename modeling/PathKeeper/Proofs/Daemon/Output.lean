import PathKeeper.Daemon.Pipeline
import PathKeeper.Proofs.Bridge.Message
import PathKeeper.Proofs.Bridge.Writer
import PathKeeper.Proofs.Coordinator.Attachment
import PathKeeper.Proofs.Monitor
import PathKeeper.Proofs.Source.Framing

/-!
# The output of the daemon

From a text of lines to lines of messages: the output is the transcript of the changes among the
lines of the text, as far as they were taken in. It begins with the attachment of the session,
welcomes the first snapshot, tells what is new in every snapshot, and ends with the detachment.
-/

namespace PathKeeper.Daemon

set_option autoImplicit false

open Bridge (Message Sink message?)
open Coordinator (Move State callsThrough corrections reports stateAfter trail)
open Monitor (moves)
open Source (changeOf? linesOf)

/-! ## Transcripts -/

def course (changes : List Change) : List (Move Engine) :=
  [.operate (.attach .bridge) .none] ++ moves changes ++ [.operate .detach .none]

theorem new_of_isWithin {options : Options}
    (h : Options.isWithin capacityRange options.eventCapacity = true) :
    ∃ start : Coordinator Engine, Coordinator.new options.settings = .ok start := by
  obtain ⟨hleast, hgreatest⟩ := Bool.and_eq_true_iff.mp h
  have hleast : 1 ≤ options.eventCapacity := of_decide_eq_true hleast
  have hgreatest : options.eventCapacity ≤ 100000 := of_decide_eq_true hgreatest
  have hmost : options.eventCapacity ≤ Coordinator.largestCapacity :=
    hgreatest.trans (by decide)
  exact ⟨_, Coordinator.new_of_capacity options.policy hleast hmost⟩

namespace Pipeline

theorem tracks_start {options : Options} {start : Coordinator Engine}
    (h : Coordinator.new options.settings = .ok start) :
    ∃ host, Pipeline.start options = .ok host ∧
      Host.Tracks start (notifier options.notify) [.operate (.attach .bridge) .none] host := by
  obtain ⟨host, hnew, htracks⟩ := Host.tracks_new h (notifier options.notify)
  refine ⟨(host.perform (.attach .bridge)).write
    [Log.info "Ready to monitor network path changes"], ?_, ?_⟩
  · rw [Pipeline.start, hnew]
  · exact (htracks.perform (.attach .bridge)).write _

theorem tracks_stop {start : Coordinator Engine} {notifier : Notifier}
    {earlier : List (Move Engine)} {host : Host} (h : Host.Tracks start notifier earlier host) :
    Host.Tracks start notifier (earlier ++ [.operate .detach .none]) (stop host) :=
  (h.write _).perform .detach

end Pipeline

end PathKeeper.Daemon
