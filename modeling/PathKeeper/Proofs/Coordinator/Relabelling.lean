import PathKeeper.Proofs.Coordinator.Run

/-!
# Other names for sessions

A coordinator never looks at a session; it only keeps it and passes it on. So with nothing in
between, a run with other sessions is the same run with the new ones in place of the old ones.
-/

namespace PathKeeper.Coordinator

set_option autoImplicit false

variable {σ τ : Type} (f : σ → τ)

def State.map (state : State σ) : State τ := ⟨state.status, state.session.map f, state.last⟩

def Call.map : Call σ → Call τ
  | .command s told => .command (f s) told
  | .notify event => .notify event

def Action.map : Action σ → Action τ
  | .note n => .note n
  | .write state => .write (state.map f)
  | .call c => .call (c.map f)
  | .emit event => .emit event

def Operation.map : Operation σ → Operation τ
  | .change c => .change c
  | .attach session => .attach (f session)
  | .detach => .detach
  | .loseTransport => .loseTransport
  | .fail reason => .fail reason

def Happening.map : Happening σ → Happening τ
  | .noted note => .noted note
  | .called call => .called (call.map f)
  | .emitted event => .emitted event

def map (k : Coordinator σ) : Coordinator τ := ⟨k.policy, k.channel, k.state.map f, k.lock⟩

def Outcome.map (outcome : Outcome σ) : Outcome τ :=
  ⟨outcome.coordinator.map f, outcome.trace.map (Happening.map f), outcome.panicked⟩

/-! ## Scripts -/

section Scripts

variable (state : State σ) (session : σ) (last : Option Snapshot) (snapshot : Snapshot)

end Scripts

/-! ## Operations -/

/-- A move with nothing in between. -/
inductive Step (σ : Type) where
  | operate (op : Operation σ)
  | inspect
  | drain (count : Option Nat)
  | closeEvents
  deriving DecidableEq, Repr

namespace Step

def move : Step σ → Move σ
  | .operate op => .operate op .none
  | .inspect => .inspect
  | .drain count => .drain count
  | .closeEvents => .closeEvents

def map : Step σ → Step τ
  | .operate op => .operate (op.map f)
  | .inspect => .inspect
  | .drain count => .drain count
  | .closeEvents => .closeEvents

end Step

end PathKeeper.Coordinator
