import PathKeeper.Monitor
import PathKeeper.Proofs.Host

/-!
# Monitors

A monitor takes in arrivals without a gap from the first one on, all of them unless a request for
shutdown is noticed. Its coordinator makes the changes among them, one after another, as if it had
been given them directly.
-/

namespace PathKeeper.Monitor

set_option autoImplicit false

open Source (Arrival)
open Coordinator (Move)

theorem loop_eq_foldl_taken (noticed : Nat → Bool) (closes : Bool) (i : Nat)
    (stream : List Arrival) (host : Host) :
    (loop noticed closes i stream host).2 =
      (taken noticed i stream).foldl (fun host arrival => step arrival host) host := by
  induction stream generalizing i host with
  | nil =>
    unfold loop
    split <;> rfl
  | cons arrival rest ih =>
    cases hnoticed : noticed i with
    | true => simp [loop, taken, hnoticed]
    | false => simpa [loop, taken, hnoticed] using ih (i + 1) (step arrival host)

/-- Whatever request is noticed, what is taken in is a front part of the stream. -/
theorem taken_isPrefix (noticed : Nat → Bool) (i : Nat) (stream : List Arrival) :
    taken noticed i stream <+: stream := by
  induction stream generalizing i with
  | nil => exact List.nil_prefix
  | cons arrival rest ih =>
    cases hnoticed : noticed i with
    | true => simp [taken, hnoticed]
    | false => simpa [taken, hnoticed, List.cons_prefix_cons] using ih (i + 1)

/-- What arrives before a request is noticed is taken in. -/
theorem take_isPrefix_taken {noticed : Nat → Bool} {i moment : Nat}
    (h : ∀ j < moment, noticed (i + j) = false) (stream : List Arrival) :
    stream.take moment <+: taken noticed i stream := by
  induction stream generalizing i moment with
  | nil => simp
  | cons arrival rest ih =>
    cases moment with
    | zero => exact List.nil_prefix
    | succ moment =>
      have hfirst : noticed i = false := h 0 (Nat.zero_lt_succ moment)
      have hrest : ∀ j < moment, noticed (i + 1 + j) = false := by
        intro j hj
        rw [Nat.add_assoc, Nat.add_comm 1 j]
        exact h (j + 1) (Nat.succ_lt_succ hj)
      simpa [taken, hfirst, List.cons_prefix_cons] using ih hrest

/-- What arrives after a request has been noticed is not taken in. -/
theorem taken_isPrefix_take {noticed : Nat → Bool} {i moment : Nat}
    (h : noticed (i + moment) = true) (stream : List Arrival) :
    taken noticed i stream <+: stream.take moment := by
  induction stream generalizing i moment with
  | nil => exact List.nil_prefix
  | cons arrival rest ih =>
    cases hnoticed : noticed i with
    | true => simp [taken, hnoticed]
    | false =>
      cases moment with
      | zero => exact absurd (hnoticed.symm.trans h) Bool.false_ne_true
      | succ moment =>
        have hrest : noticed (i + 1 + moment) = true := by
          rw [Nat.add_assoc, Nat.add_comm 1 moment]
          exact h
        simpa [taken, hnoticed, List.cons_prefix_cons] using ih hrest

theorem taken_eq_self {noticed : Nat → Bool} {i : Nat} {stream : List Arrival}
    (h : ∀ j < stream.length, noticed (i + j) = false) : taken noticed i stream = stream := by
  have hall := take_isPrefix_taken h stream
  rw [List.take_length] at hall
  exact (taken_isPrefix noticed i stream).eq_of_length_le hall.length_le

/-- Something that holds of a host when some changes have been applied to it, whatever is written to
the log. -/
structure IsKept (holds : List Change → Host → Prop) : Prop where
  write : ∀ {changes : List Change} {host : Host}, holds changes host → ∀ entries,
    holds changes (host.write entries)
  apply : ∀ {changes : List Change} {host : Host}, holds changes host → ∀ change,
    holds (changes ++ [change]) (apply change host)

namespace IsKept

variable {holds : List Change → Host → Prop} {host : Host}

theorem start (h : IsKept holds) (hhost : holds [] host) (current : Option Change) :
    holds current.toList (start current host) := by
  cases current with
  | none => exact h.write hhost _
  | some change => exact h.apply (h.write hhost _) change

theorem step (h : IsKept holds) {changes : List Change} (hhost : holds changes host)
    (arrival : Arrival) : holds (changes ++ arrival.change.toList) (step arrival host) := by
  have hwrite := h.write hhost arrival.entries
  unfold Monitor.step
  cases arrival.change with
  | none =>
    rw [Option.toList_none, List.append_nil]
    exact hwrite
  | some change => exact h.apply hwrite change

theorem foldl_step (h : IsKept holds) {changes : List Change} (hhost : holds changes host)
    (arrivals : List Arrival) :
    holds (changes ++ arrivals.filterMap Arrival.change)
      (arrivals.foldl (fun host arrival => Monitor.step arrival host) host) := by
  induction arrivals generalizing host changes with
  | nil => simpa using hhost
  | cons arrival rest ih =>
    have hrest := ih (h.step hhost arrival)
    have hchanges : arrival.change.toList ++ rest.filterMap Arrival.change =
        (arrival :: rest).filterMap Arrival.change := by
      cases hchange : arrival.change <;> simp [hchange]
    rwa [List.append_assoc, hchanges] at hrest

theorem run (h : IsKept holds) (hhost : holds [] host) (request : Request) (source : PathSource) :
    holds (applied request source) (run request source host).2 := by
  unfold Monitor.run applied
  cases source.current with
  | error failure => exact hhost
  | ok current =>
    have hloop := h.foldl_step (h.start hhost current) (taken request.noticed 0 source.stream)
    rw [← loop_eq_foldl_taken _ source.closes] at hloop
    exact h.write hloop _

end IsKept

/-- The moves that changes make when nothing comes between. -/
def moves (changes : List Change) : List (Move Engine) :=
  changes.map fun change => .operate (.change change) .none

section Tracks

variable {start : Coordinator Engine} {notifier : Notifier} {earlier : List (Move Engine)}
  {host : Host}

theorem isKept_tracks (start : Coordinator Engine) (notifier : Notifier)
    (earlier : List (Move Engine)) :
    IsKept fun changes => Host.Tracks start notifier (earlier ++ moves changes) where
  write h entries := h.write entries
  apply h change := by
    rw [moves, List.map_append, ← List.append_assoc]
    exact h.perform (.change change)

theorem tracks_applied (h : Host.Tracks start notifier earlier host) (request : Request)
    (source : PathSource) :
    Host.Tracks start notifier (earlier ++ moves (applied request source))
      (run request source host).2 := by
  apply (isKept_tracks start notifier earlier).run
  rw [moves, List.map_nil, List.append_nil]
  exact h

end Tracks

/-! ## Monitored and direct changes -/

/-- Applies changes directly, one after another. -/
def applyAll (changes : List Change) (host : Host) : Host :=
  changes.foldl (fun host change => apply change host) host

theorem isKept_saysMore (plain : Host) :
    IsKept fun changes host => host.SaysMore (applyAll changes plain) where
  write h entries := h.write entries
  apply h change := by
    rw [applyAll, List.foldl_append]
    exact h.perform (.change change)

/-- Shutdown may be requested in whatever way, and the request noticed before whatever arrival. If
the source fails to tell the current network, the run fails alike and leaves the host as it was.
Else the host comes to be as if changes had been applied directly: that of the current network, and
those of the stream from the first one on that come before the request is noticed. Only its log may
say more. -/
theorem changes_are_applied_without_a_gap (request : Request) (source : PathSource) (host : Host) :
    (∀ failure, source.current = .error failure →
      run request source host = (.error failure, host)) ∧
    ∀ current, source.current = .ok current →
      (run request source host).1 = .ok () ∧
      ∃ changes, changes <+: source.stream.filterMap Arrival.change ∧
        (run request source host).2.SaysMore (applyAll (current.toList ++ changes) host) ∧
        (∀ moment, request.noticed moment = true →
          changes <+: (source.stream.take moment).filterMap Arrival.change) ∧
        (∀ moment, (∀ i < moment, request.noticed i = false) →
          (source.stream.take moment).filterMap Arrival.change <+: changes) ∧
        ((∀ i < source.stream.length, request.noticed i = false) →
          changes = source.stream.filterMap Arrival.change) := by
  constructor
  · intro failure hfailure
    rw [run, hfailure]
  · intro current hcurrent
    have hrun := (isKept_saysMore host).run (Host.SaysMore.refl host) request source
    rw [applied, hcurrent] at hrun
    refine ⟨?_, (taken request.noticed 0 source.stream).filterMap Arrival.change,
      (taken_isPrefix _ _ _).filterMap _, hrun, ?_, ?_, ?_⟩
    · rw [run, hcurrent]
    · intro moment hnoticed
      have hmoment : request.noticed (0 + moment) = true := by rwa [Nat.zero_add]
      exact (taken_isPrefix_take hmoment source.stream).filterMap Arrival.change
    · intro moment hmoment
      have hbefore : ∀ j < moment, request.noticed (0 + j) = false := by simpa using hmoment
      exact (take_isPrefix_taken hbefore source.stream).filterMap Arrival.change
    · intro hnever
      have hall : ∀ j < source.stream.length, request.noticed (0 + j) = false := by
        simpa using hnever
      rw [taken_eq_self hall]

/-- A request that is noticed behind two changes and a line that holds none. -/
theorem changes_before_request_are_applied :
    let change (name : String) : Change := ⟨⟨name⟩, ["1.1.1.1"]⟩
    let stream : List Arrival :=
      [.ofChange (change "cafe"), ⟨[Log.debug "nothing"], none⟩, .ofChange (change "hotel"),
        .ofChange (change "home")]
    let source : PathSource := ⟨.ok (some (change "office")), stream, true⟩
    let request : Request := ⟨fun i => 3 ≤ i, []⟩
    let fresh : Host := ⟨⟨.skip, .new 9, .initial, .free⟩, .log, [], [], .empty, []⟩
    let host := fresh.perform (.attach (.recorder "tunnel"))
    (run request source host).1 = .ok () ∧
      (run request source host).2.SaysMore
        (applyAll [change "office", change "cafe", change "hotel"] host) := by
  intro change stream source request fresh host
  obtain ⟨hresult, changes, -, hhost, hbehind, hbefore, -⟩ :=
    (changes_are_applied_without_a_gap request source host).2 (some (change "office")) rfl
  have hsome : [change "cafe", change "hotel"] <+: changes := hbefore 3 (by decide)
  have hnomore : changes <+: [change "cafe", change "hotel"] := hbehind 3 rfl
  have hchanges := hsome.eq_of_length_le hnomore.length_le
  rw [← hchanges] at hhost
  exact ⟨hresult, hhost⟩

end PathKeeper.Monitor
