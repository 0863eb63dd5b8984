import Mathlib.Data.List.Destutter
import PathKeeper.Proofs.Coordinator.Run

/-!
# Corrections

Among the calls to a session, those that correct it tell it resolvers or let it reconnect. A change
that is applied corrects what its snapshot brings in addition to the last one; over a list of
snapshots that is every value that does not repeat the one before.
-/

namespace PathKeeper

set_option autoImplicit false

def Command.servers? : Command → Option Servers
  | .setServers servers => some servers
  | _ => none

namespace Coordinator

variable {σ : Type}

/-! ## Corrections among calls -/

section Corrections

variable [DecidableEq σ]

/-- The command of a call to a session, unless it only reports a status. -/
def Call.correction? (s : σ) : Call σ → Option Command
  | .command session (.setServers servers) =>
    if session = s then some (.setServers servers) else none
  | .command session .reconnect => if session = s then some .reconnect else none
  | _ => none

def correctionsTo (s : σ) (trace : List (Happening σ)) : List Command :=
  (callsIn trace).filterMap (Call.correction? s)

/-- The resolvers that a session is told, in order. -/
def serversTold (s : σ) (trace : List (Happening σ)) : List Servers :=
  (correctionsTo s trace).filterMap Command.servers?

def reconnects (s : σ) (trace : List (Happening σ)) : Nat :=
  (correctionsTo s trace).count .reconnect

@[simp] theorem correctionsTo_append (s : σ) (front back : List (Happening σ)) :
    correctionsTo s (front ++ back) = correctionsTo s front ++ correctionsTo s back := by
  simp [correctionsTo]

@[simp] theorem serversTold_append (s : σ) (front back : List (Happening σ)) :
    serversTold s (front ++ back) = serversTold s front ++ serversTold s back := by
  simp [serversTold]

theorem correction?_reports (s : σ) (session : Option σ) (before after : SessionStatus)
    (event : Option StatusEvent) :
    (reports session before after event).filterMap (Call.correction? s) = [] := by
  unfold reports
  split
  · rfl
  · cases session <;> cases event <;> rfl

theorem correction?_corrections (s : σ) (last : Option Snapshot) (next : Snapshot) :
    ((corrections last next).map (.command s)).filterMap (Call.correction? s) =
      corrections last next := by
  unfold corrections
  split <;> split <;> simp [Call.correction?]

end Corrections

theorem servers?_corrections (last : Option Snapshot) (next : Snapshot) :
    (corrections last next).filterMap Command.servers? =
      if last.map Snapshot.servers = some next.servers then [] else [next.servers] := by
  unfold corrections
  split <;> split <;> rfl

/-! ## Snapshots of moves -/

/-- The snapshot that an operation brings, if it is a change that is not discarded. -/
def Operation.snapshot? (policy : Policy) : Operation σ → Option Snapshot
  | .change c => c.snapshot? policy
  | _ => none

def Operation.keepsSession : Operation σ → Bool
  | .attach _ => false
  | .detach => false
  | _ => true

theorem State.session_next (policy : Policy) {state : State σ} {s : σ} {op : Operation σ}
    (hs : state.session = some s) (hkeeps : op.keepsSession = true) :
    (state.next policy op).session = some s := by
  cases op with
  | change change =>
    simp only [next, hs]
    cases change.snapshot? policy with
    | none => exact hs
    | some snapshot => rfl
  | attach session => cases hkeeps
  | detach => cases hkeeps
  | loseTransport => simp [next, hs]
  | fail reason => simp [next, hs]

theorem State.last_next (policy : Policy) {state : State σ} {s : σ} {op : Operation σ}
    (hs : state.session = some s) (hkeeps : op.keepsSession = true) :
    (state.next policy op).last = (op.snapshot? policy).or state.last := by
  cases op with
  | change change =>
    simp only [next, hs, Operation.snapshot?]
    cases change.snapshot? policy <;> rfl
  | attach session => cases hkeeps
  | detach => cases hkeeps
  | loseTransport => simp [next, hs, Operation.snapshot?]
  | fail reason => simp [next, hs, Operation.snapshot?]

section Due

variable [DecidableEq σ]

theorem Operation.correction?_callsDue_of_none {policy : Policy} {op : Operation σ}
    (h : op.snapshot? policy = none) (s : σ) (state : State σ) :
    (callsDue policy state op).filterMap (Call.correction? s) = [] := by
  cases op with
  | change change =>
    have hc : change.snapshot? policy = none := h
    cases hs : state.session <;> simp [callsDue, hs, hc]
  | attach session => exact correction?_reports s _ _ _ _
  | detach => exact correction?_reports s _ _ _ _
  | loseTransport =>
    simp only [callsDue]
    split
    · rfl
    · exact correction?_reports s _ _ _ _
  | fail reason =>
    simp only [callsDue]
    split
    · rfl
    · exact correction?_reports s _ _ _ _

theorem Operation.correction?_callsDue_of_some {policy : Policy} {state : State σ} {s : σ}
    {op : Operation σ} {snapshot : Snapshot} (hs : state.session = some s)
    (h : op.snapshot? policy = some snapshot) :
    (callsDue policy state op).filterMap (Call.correction? s) =
      corrections state.last snapshot := by
  cases op with
  | change change =>
    have hc : change.snapshot? policy = some snapshot := h
    simp only [callsDue, hs, hc, List.filterMap_append, correction?_reports,
      correction?_corrections, List.nil_append]
  | attach session => cases h
  | detach => cases h
  | loseTransport => cases h
  | fail reason => cases h

end Due

namespace Move

def snapshot? (policy : Policy) : Move σ → Option Snapshot
  | .operate op _ => op.snapshot? policy
  | _ => none

def keepsSession : Move σ → Bool
  | .operate op _ => op.keepsSession
  | _ => true

theorem session_next {policy : Policy} {state : State σ} {s : σ} {move : Move σ}
    (hs : state.session = some s) (hkeeps : move.keepsSession = true) :
    (move.next policy state).session = some s := by
  cases move with
  | operate op i => exact State.session_next policy hs hkeeps
  | inspect => exact hs
  | drain count => exact hs
  | closeEvents => exact hs

theorem last_next {policy : Policy} {state : State σ} {s : σ} {move : Move σ}
    (hs : state.session = some s) (hkeeps : move.keepsSession = true) :
    (move.next policy state).last = (move.snapshot? policy).or state.last := by
  cases move with
  | operate op i => exact State.last_next policy hs hkeeps
  | inspect => rfl
  | drain count => rfl
  | closeEvents => rfl

variable [DecidableEq σ]

theorem correction?_callsDue_of_none {policy : Policy} {move : Move σ}
    (h : move.snapshot? policy = none) (s : σ) (state : State σ) :
    (move.callsDue policy state).filterMap (Call.correction? s) = [] := by
  cases move with
  | operate op i => exact Operation.correction?_callsDue_of_none h s state
  | inspect => rfl
  | drain count => rfl
  | closeEvents => rfl

theorem correction?_callsDue_of_some {policy : Policy} {state : State σ} {s : σ} {move : Move σ}
    {snapshot : Snapshot} (hs : state.session = some s)
    (h : move.snapshot? policy = some snapshot) :
    (move.callsDue policy state).filterMap (Call.correction? s) =
      corrections state.last snapshot := by
  cases move with
  | operate op i => exact Operation.correction?_callsDue_of_some hs h
  | inspect => cases h
  | drain count => cases h
  | closeEvents => cases h

theorem correctionsTo_outcome {k : Coordinator σ} {s : σ} {move : Move σ} (h : k.lock ≠ .held)
    (hcalm : move.IsCalm) (hs : k.state.session = some s) :
    correctionsTo s (move.outcome k).trace =
      ((move.snapshot? k.policy).map (corrections k.state.last)).getD [] := by
  unfold correctionsTo
  rw [callsIn_outcome_of_isCalm h hcalm]
  cases hsnapshot : move.snapshot? k.policy with
  | none => exact correction?_callsDue_of_none hsnapshot s k.state
  | some snapshot => exact correction?_callsDue_of_some hs hsnapshot

end Move

/-! ## Corrections over many snapshots -/

/-- The commands that bring a session from one snapshot through a list of others. -/
def trail : Option Snapshot → List Snapshot → List Command
  | _, [] => []
  | last, next :: rest => corrections last next ++ trail (some next) rest

/-- The values of a field that differ from the value before. -/
def news {β : Type} [DecidableEq β] (field : Snapshot → β) :
    Option Snapshot → List Snapshot → List β
  | _, [] => []
  | last, next :: rest =>
    (if last.map field = some (field next) then [] else [field next]) ++
      news field (some next) rest

theorem cons_news {β : Type} [DecidableEq β] (field : Snapshot → β) (last : Snapshot)
    (snapshots : List Snapshot) :
    field last :: news field (some last) snapshots =
      (snapshots.map field).destutter' (· ≠ ·) (field last) := by
  induction snapshots generalizing last with
  | nil => rfl
  | cons next rest ih =>
    by_cases h : field last = field next
    · simp [news, h, ← ih next]
    · simp [news, h, ← ih next]

/-- From nothing on, the values that differ from the one before are those that do not repeat it. -/
theorem news_none {β : Type} [DecidableEq β] (field : Snapshot → β) (snapshots : List Snapshot) :
    news field none snapshots = (snapshots.map field).destutter (· ≠ ·) := by
  cases snapshots with
  | nil => rfl
  | cons next rest => exact cons_news field next rest

theorem servers?_trail (last : Option Snapshot) (snapshots : List Snapshot) :
    (trail last snapshots).filterMap Command.servers? = news Snapshot.servers last snapshots := by
  induction snapshots generalizing last with
  | nil => rfl
  | cons next rest ih => rw [trail, news, List.filterMap_append, ih, servers?_corrections]

theorem count_reconnect_trail (last : Option Snapshot) (snapshots : List Snapshot) :
    (trail last snapshots).count .reconnect =
      (news Snapshot.identity last snapshots).length := by
  induction snapshots generalizing last with
  | nil => rfl
  | cons next rest ih =>
    simp only [trail, news, corrections, List.count_append, List.length_append, ih]
    split <;> split <;> rfl

end Coordinator

end PathKeeper
