/-
This file proves that the acceptor shuts down once nothing new can arrive: when the listener is
closed and every peer of every live relay has closed its end of the connection. Every run of
the proxy's own steps and of `Close` is then finite, bounded by a measure of the work left
(`remaining`). A run that cannot go on has ended every `handleConn`, brought the wait group to
zero, let `ListenAndServe` and `Close` return (`shutdown_completes`).

The measure counts, for each relay, its stage, its pumps, and three for each unread message:
every step of a relay's goroutines lowers it, since a read consumes a message and a pump only
ever moves towards its return. The peers' closing is what makes the relays move: a read of a
connection whose peer has closed its end never blocks. Where a peer stays open and silent, the
relay blocks instead, as the acceptor's own module shows.

`Close` waits on the wait group only when it finds the listener open, and the wait group counts
a connection only once `p.wg.Go` has started it. When `Close` returns, every connection the wait
group counted has returned, but one that `lis.Accept` returned just before `Close` closed the
listener may still wait for `p.wg.Go`, and is relayed after `Close` has returned. When the
context was cancelled first, the goroutine watching it has closed the listener, closing it again
fails, and `Close` returns that error at once, whatever the connections are doing
(`close_returns`).
-/

import Mathlib.Algebra.Order.Ring.Nat
import SqlTap.Acceptor

namespace SqlTap.Postgres

/-! ### The work a relay has left -/

/-- How far `handleConn` is from returning. -/
def Stage.rank : Stage → Nat
  | .accepted => 6
  | .dialing => 5
  | .startupPacket => 4
  | .authMessages => 3
  | .relaying => 2
  | .draining => 1
  | .returned => 0

/-- How far a pump is from returning: a test of the context, then a read. -/
def Pump.rank : Pump → Nat
  | .checking => 2
  | .receiving => 1
  | .returned => 0

/-- The work a relay's goroutines have left: the stage, the pumps, and three for each message
not yet read, which a pump reads and then tests the context again. -/
def Relay.remaining (r : Relay) : Nat :=
  r.stage.rank + r.clientToUpstream.rank + r.upstreamToClient.rank +
    3 * (r.client.pending + r.upstream.pending)

theorem Pump.rank_le (pump : Pump) : pump.rank ≤ 2 := by
  cases pump <;> decide

theorem Socket.pending_of_receive {socket : Socket} (message : socket.receive = .message) :
    0 < socket.pending := by
  unfold Socket.receive at message
  split_ifs at message
  assumption

@[simp] theorem Relay.pump_setSource (r : Relay) (socket : Socket) (side : Side) :
    (r.setSource socket side).pump side = r.pump side := by
  cases side <;> rfl

theorem Relay.remaining_setPump (r : Relay) (pump : Pump) (side : Side) :
    (r.setPump pump side).remaining + (r.pump side).rank = r.remaining + pump.rank := by
  cases side <;> simp only [Relay.setPump, Relay.pump, Relay.remaining] <;> omega

/-- Reading a message takes three off the work left. -/
theorem Relay.remaining_consume (r : Relay) (side : Side) (unread : 0 < (r.source side).pending) :
    (r.setSource { r.source side with pending := (r.source side).pending - 1 } side).remaining + 3 =
      r.remaining := by
  cases side <;> simp only [Relay.setSource, Relay.source, Relay.remaining] at unread ⊢ <;> omega

/-- Returning takes the stage's rank off the work left, and a live relay's stage has some. -/
theorem Relay.remaining_finish_lt {r : Relay} (live : r.stage ≠ .returned) :
    r.finish.remaining < r.remaining := by
  have positive : 0 < r.stage.rank := by
    revert live
    cases r.stage <;> decide
  simp only [Relay.finish, Relay.remaining, show Stage.returned.rank = 0 from rfl]
  omega

/-- Every step of a relay's goroutines lowers the work it has left. -/
theorem Relay.remaining_step {cancelled : Bool} {r r' : Relay} {activity : Activity}
    (quiet : activity.quiet = true) (stepped : r.step cancelled activity = some r') :
    r'.remaining < r.remaining := by
  cases activity with
  | send | hangUp => cases quiet
  | dial ok =>
    simp only [Relay.step] at stepped
    split at stepped <;> cases stepped
    rename_i dialing
    split
    · exact Relay.remaining_finish_lt (by simp [dialing])
    · simp only [Relay.remaining, dialing, Stage.rank]
      omega
  | startupPacket =>
    simp only [Relay.step] at stepped
    split at stepped
    · rename_i startup
      split at stepped <;> cases stepped
      · have unread := Socket.pending_of_receive ‹_›
        simp only [Relay.remaining, startup, Stage.rank]
        omega
      · exact Relay.remaining_finish_lt (by simp [startup])
    · cases stepped
  | authMessage reply =>
    simp only [Relay.step] at stepped
    split at stepped
    · rename_i auth
      split at stepped
      · have unread := Socket.pending_of_receive ‹_›
        cases reply <;> cases stepped <;>
          simp only [Relay.remaining, Relay.finish, auth, Stage.rank] <;> omega
      · cases stepped
        exact Relay.remaining_finish_lt (by simp [auth])
      · cases stepped
    · cases stepped
  | check side =>
    simp only [Relay.step, Relay.check] at stepped
    split at stepped <;> cases stepped
    rename_i enabled
    have moved := r.remaining_setPump (if cancelled then .returned else .receiving) side
    have bounded : (if cancelled then Pump.returned else .receiving).rank ≤ 1 := by
      cases cancelled <;> decide
    rw [enabled.2, show Pump.checking.rank = 2 from rfl] at moved
    omega
  | receive side =>
    simp only [Relay.step, Relay.receive] at stepped
    split at stepped
    · rename_i enabled
      split at stepped <;> cases stepped
      · rename_i message
        have consumed := r.remaining_consume side (Socket.pending_of_receive message)
        have moved := (r.setSource { r.source side with pending := (r.source side).pending - 1 }
          side).remaining_setPump (if (r.target side).closed then .returned else .checking) side
        have bounded := Pump.rank_le (if (r.target side).closed then .returned else .checking)
        rw [Relay.pump_setSource, enabled.2, show Pump.receiving.rank = 1 from rfl] at moved
        dsimp only at moved consumed ⊢
        omega
      · have moved := r.remaining_setPump .returned side
        rw [enabled.2] at moved
        simp only [Pump.rank] at moved
        omega
    · cases stepped
  | closeSockets =>
    simp only [Relay.step] at stepped
    split at stepped <;> cases stepped
    simp only [Relay.remaining, ‹_ ∧ _›.1, Stage.rank]
    omega
  | finish =>
    simp only [Relay.step] at stepped
    split at stepped <;> cases stepped
    exact Relay.remaining_finish_lt (by simp [‹_ ∧ _›.1])

/-- A step of a relay's goroutines leaves the peers' ends as they were. -/
theorem Relay.hungUp_step {cancelled : Bool} {r r' : Relay} {activity : Activity}
    (quiet : activity.quiet = true) (stepped : r.step cancelled activity = some r') :
    r'.client.hungUp = r.client.hungUp ∧ r'.upstream.hungUp = r.upstream.hungUp := by
  cases activity with
  | send | hangUp => cases quiet
  | check side =>
    simp only [Relay.step, Relay.check] at stepped
    split at stepped <;> cases stepped
    cases side <;> exact ⟨rfl, rfl⟩
  | receive side =>
    simp only [Relay.step, Relay.receive] at stepped
    split at stepped
    · split at stepped <;> cases stepped <;> cases side <;> exact ⟨rfl, rfl⟩
    · cases stepped
  | _ =>
    simp only [Relay.step] at stepped
    repeat' split at stepped
    all_goals first | (cases stepped; exact ⟨rfl, rfl⟩) | cases stepped

/-! ### A relay whose peers have closed can always move on -/

/-- A read of a connection whose peer has closed its end never blocks. -/
theorem Socket.receive_ne_blocked {socket : Socket} (hungUp : socket.hungUp = true) :
    socket.receive ≠ .blocked := by
  unfold Socket.receive
  split_ifs <;> simp_all

/-- A pump that has not returned, of a relay that runs its pumps, can move when the peer it
reads has closed its end. -/
theorem Relay.pump_moves (cancelled : Bool) {r : Relay} (side : Side)
    (running : r.stage = .relaying ∨ r.stage = .draining) (notReturned : r.pump side ≠ .returned)
    (hungUp : (r.source side).hungUp = true) :
    ∃ activity, activity.quiet = true ∧ r.step cancelled activity ≠ none := by
  cases pump : r.pump side with
  | returned => exact absurd pump notReturned
  | checking => exact ⟨.check side, rfl, by simp [Relay.step, Relay.check, running, pump]⟩
  | receiving =>
    refine ⟨.receive side, rfl, ?_⟩
    have unblocked := Socket.receive_ne_blocked hungUp
    simp only [Relay.step, Relay.receive, running, pump, and_self, if_true]
    split <;> simp_all

/-- Progress: a started relay whose two peers have closed their ends can always move on until
`handleConn` returns. -/
theorem Relay.progress (cancelled : Bool) {r : Relay} (live : r.live = true)
    (started : r.stage ≠ .accepted) (clientClosed : r.client.hungUp = true)
    (upstreamClosed : r.upstream.hungUp = true) :
    ∃ activity, activity.quiet = true ∧ r.step cancelled activity ≠ none := by
  cases stage : r.stage with
  | accepted => exact absurd stage started
  | dialing => exact ⟨.dial true, rfl, by simp [Relay.step, stage]⟩
  | startupPacket =>
    refine ⟨.startupPacket, rfl, ?_⟩
    have unblocked := Socket.receive_ne_blocked clientClosed
    simp only [Relay.step, stage, if_true]
    split <;> simp_all
  | authMessages =>
    refine ⟨.authMessage .other, rfl, ?_⟩
    have unblocked := Socket.receive_ne_blocked upstreamClosed
    simp only [Relay.step, stage, if_true]
    split <;> simp_all
  | relaying =>
    by_cases pumpReturned : r.clientToUpstream = .returned ∨ r.upstreamToClient = .returned
    · exact ⟨.closeSockets, rfl, by simp [Relay.step, stage, pumpReturned]⟩
    · push_neg at pumpReturned
      exact r.pump_moves cancelled .client (.inl stage) pumpReturned.1 clientClosed
  | draining =>
    by_cases clientPump : r.clientToUpstream = .returned
    · by_cases upstreamPump : r.upstreamToClient = .returned
      · exact ⟨.finish, rfl, by simp [Relay.step, stage, clientPump, upstreamPump]⟩
      · exact r.pump_moves cancelled .upstream (.inr stage) upstreamPump upstreamClosed
    · exact r.pump_moves cancelled .client (.inr stage) clientPump clientClosed
  | returned => simp [Relay.live, stage] at live

/-! ### The acceptor shuts down -/

/-- A step of the proxy's goroutines or of `Close`: not the context's cancellation, and nothing
a peer does. -/
def Acceptor.Action.internal : Acceptor.Action → Bool
  | .cancel => false
  | .relay _ activity => activity.quiet
  | _ => true

def Closer.rank : Closer → Nat
  | .notCalled => 2
  | .waiting => 1
  | .returned => 0

/-- The work the proxy has left: its relays', the watching goroutine's, the accept loop's and
`Close`'s. -/
def Acceptor.remaining (s : Acceptor) : Nat :=
  (s.relays.map Relay.remaining).sum + (if s.watcherDone then 0 else 1) +
    (if s.serving then 1 else 0) + s.closer.rank

/-- Nothing new can arrive: the listener is closed, and every peer of a live relay has closed
its end. -/
def Acceptor.Quiescent (s : Acceptor) : Prop :=
  s.listenerClosed = true ∧
    ∀ r ∈ s.relays, r.live = true → r.client.hungUp = true ∧ r.upstream.hungUp = true

/-- Replacing one element moves a sum by the difference of the two. -/
theorem sum_map_set_add {α : Type} (f : α → Nat) :
    ∀ (l : List α) (index : Nat) {old : α} (new : α), l[index]? = some old →
      ((l.set index new).map f).sum + f old = (l.map f).sum + f new
  | [], _, _, _, found => by cases found
  | head :: tail, 0, _, new, found => by
    simp only [List.getElem?_cons_zero, Option.some.injEq] at found
    subst found
    simp only [List.set_cons_zero, List.map_cons, List.sum_cons]
    omega
  | head :: tail, index + 1, _, new, found => by
    rw [List.getElem?_cons_succ] at found
    have inductionHypothesis := sum_map_set_add f tail index new found
    simp only [List.set_cons_succ, List.map_cons, List.sum_cons]
    omega

/-- The step lemma: each of the proxy's own steps lowers the work left, and nothing new can
arrive afterwards either. -/
theorem Acceptor.remaining_step {s s' : Acceptor} {action : Acceptor.Action}
    (quiescent : s.Quiescent) (internal : action.internal = true)
    (stepped : s.step action = some s') : s'.remaining < s.remaining ∧ s'.Quiescent := by
  obtain ⟨listenerClosed, peersClosed⟩ := quiescent
  cases action with
  | cancel => cases internal
  | relay index activity =>
    obtain ⟨r, r', found, relayStepped, rfl⟩ := Acceptor.step_relay stepped
    have moved := sum_map_set_add Relay.remaining s.relays index r' found
    have lower := Relay.remaining_step internal relayStepped
    have closedBefore := Relay.hungUp_step internal relayStepped
    refine ⟨by simp only [Acceptor.remaining]; omega, listenerClosed, fun r'' member live => ?_⟩
    rcases List.mem_or_eq_of_mem_set member with old | rfl
    · exact peersClosed r'' old live
    · have wasLive : r.live = true := by
        by_contra returned
        simp only [Relay.live, bne_iff_ne, ne_eq, Decidable.not_not] at returned live
        exact live (Relay.stage_step_of_returned returned relayStepped)
      rw [closedBefore.1, closedBefore.2]
      exact peersClosed r (List.mem_iff_getElem?.mpr ⟨index, found⟩) wasLive
  | go index =>
    obtain ⟨r, found, accepted, rfl⟩ := Acceptor.step_go stepped
    have moved := sum_map_set_add Relay.remaining s.relays index { r with stage := .dialing } found
    have lower : ({ r with stage := .dialing } : Relay).remaining + 1 = r.remaining := by
      simp only [Relay.remaining, accepted, show Stage.accepted.rank = 6 from rfl,
        show Stage.dialing.rank = 5 from rfl]
      omega
    refine ⟨by simp only [Acceptor.remaining]; omega, listenerClosed, fun r'' member live => ?_⟩
    rcases List.mem_or_eq_of_mem_set member with old | rfl
    · exact peersClosed r'' old live
    · exact peersClosed r (List.mem_iff_getElem?.mpr ⟨index, found⟩) (by simp [Relay.live, accepted])
  | accept => simp [Acceptor.step, listenerClosed] at stepped
  | _ =>
    simp only [Acceptor.step] at stepped
    repeat' split at stepped
    all_goals cases stepped
    all_goals exact ⟨by simp_all [Acceptor.remaining, Closer.rank], by simp_all [Acceptor.Quiescent]⟩

/-- When none of the proxy's own steps can be taken and nothing new can arrive, everything has
shut down: every `handleConn` has returned, the wait group is at zero, and `ListenAndServe` and
`Close` have returned. -/
theorem Acceptor.shutdown_of_blocked {s : Acceptor} (counts : s.Counts) (quiescent : s.Quiescent)
    (blocked : ∀ action : Acceptor.Action, action.internal = true → s.step action = none) :
    (∀ r ∈ s.relays, r.stage = .returned) ∧ s.inFlight = 0 ∧ s.closer = .returned ∧
      s.serving = false := by
  obtain ⟨listenerClosed, peersClosed⟩ := quiescent
  have returned : ∀ r ∈ s.relays, r.stage = .returned := by
    intro r member
    by_contra notReturned
    have live : r.live = true := by simpa [Relay.live] using notReturned
    obtain ⟨index, found⟩ := List.mem_iff_getElem?.mp member
    by_cases accepted : r.stage = .accepted
    · simpa [Acceptor.step, found, accepted] using blocked (.go index) rfl
    obtain ⟨activity, quiet, moves⟩ := Relay.progress s.cancelled live accepted
      (peersClosed r member live).1 (peersClosed r member live).2
    have stuck := blocked (.relay index activity) quiet
    simp only [Acceptor.step, found, Option.map_eq_none'] at stuck
    exact moves stuck
  have idle : s.inFlight = 0 := by
    rw [counts, List.countP_eq_zero]
    intro r member
    simp [Relay.counted, returned r member]
  have started : s.relays.all (·.stage != .accepted) := by
    simp only [List.all_eq_true, bne_iff_ne]
    intro r member
    simp [returned r member]
  refine ⟨returned, idle, ?_, ?_⟩
  · cases closer : s.closer with
    | notCalled => simpa [Acceptor.step, closer] using blocked .close rfl
    | waiting => simpa [Acceptor.step, closer, idle] using blocked .wait rfl
    | returned => rfl
  · by_contra serving
    simpa [Acceptor.step, listenerClosed, serving, started] using blocked .acceptFails rfl

/-- What holds of every state a run from the start reaches, when it holds at the start and every
step keeps it. -/
theorem Acceptor.Reachable.invariant {property : Acceptor → Prop}
    (initial : property Acceptor.initial)
    (preserved : ∀ {s s' : Acceptor} {action : Acceptor.Action}, property s →
      s.step action = some s' → property s')
    {s : Acceptor} (reachable : s.Reachable) : property s := by
  obtain ⟨actions, ran⟩ := reachable
  generalize Acceptor.initial = start at initial ran
  induction actions generalizing start with
  | nil => cases ran; exact initial
  | cons action actions inductionHypothesis =>
    obtain ⟨next, stepped, rest⟩ := Option.bind_eq_some.mp ran
    exact inductionHypothesis next (preserved initial stepped) rest

/-- Who has closed the listener: the goroutine watching the context, which runs once the context
is cancelled, or `Close`. -/
def Acceptor.ListenerClosedBy (s : Acceptor) : Prop :=
  (s.watcherDone = true → s.cancelled = true) ∧
    (s.listenerClosed = true → s.watcherDone = true ∨ s.closer ≠ .notCalled)

theorem Acceptor.listenerClosedBy_step {s s' : Acceptor} {action : Acceptor.Action}
    (closedBy : s.ListenerClosedBy) (stepped : s.step action = some s') : s'.ListenerClosedBy := by
  cases action with
  | relay index activity =>
    obtain ⟨_, _, -, -, rfl⟩ := Acceptor.step_relay stepped
    exact closedBy
  | _ =>
    simp only [Acceptor.step] at stepped
    repeat' split at stepped
    all_goals cases stepped
    all_goals simp_all [Acceptor.ListenerClosedBy]

/-- `Close` waits for the connections only when it finds the listener open, and the wait group
counts a connection only from `p.wg.Go` on. Over every run, when `Close` returns, either every
connection has returned or is one that `lis.Accept` returned and `p.wg.Go` has not yet started,
which the accept loop starts afterwards; or `Close` has just been called after the context was
cancelled and the goroutine watching it closed the listener: closing it again fails, and `Close`
returns that error without waiting on the wait group, whatever the connections are doing. -/
theorem close_returns {s s' : Acceptor} {action : Acceptor.Action} (reachable : s.Reachable)
    (stepped : s.step action = some s') (pending : s.closer ≠ .returned)
    (returned : s'.closer = .returned) :
    (∀ r ∈ s'.relays, r.stage = .returned ∨ r.stage = .accepted) ∨
      (action = .close ∧ s.cancelled = true ∧ s.watcherDone = true ∧ s.listenerClosed = true) := by
  have counts := Acceptor.counts_of_reachable reachable
  have ⟨watched, closed⟩ := Acceptor.Reachable.invariant
    (by simp [Acceptor.ListenerClosedBy, Acceptor.initial]) Acceptor.listenerClosedBy_step reachable
  cases action with
  | wait =>
    simp only [Acceptor.step] at stepped
    split at stepped <;> cases stepped
    rename_i enabled
    refine .inl fun r member => ?_
    have uncounted := List.countP_eq_zero.mp (counts ▸ enabled.2) r member
    simp only [Relay.counted, Bool.and_eq_true, bne_iff_ne, not_and_or, ne_eq,
      Decidable.not_not] at uncounted
    exact uncounted.symm
  | close =>
    simp only [Acceptor.step] at stepped
    split at stepped <;> cases stepped
    rename_i notCalled
    split at returned
    · rename_i listenerClosed
      have watcherDone := (closed listenerClosed).resolve_right (not_not.mpr notCalled)
      exact .inr ⟨rfl, watched watcherDone, watcherDone, listenerClosed⟩
    · cases returned
  | _ => exact absurd ((Acceptor.closer_step stepped nofun nofun).symm.trans returned) pending

/-- `Close` is called between `lis.Accept` and `p.wg.Go`: it closes the listener, and its wait
returns at once, the accepted connection not yet started. -/
theorem close_returns_beforeGo :
    Relay.accepted.stage = .accepted ∧
      ((∀ r ∈ [Relay.accepted], r.stage = .returned ∨ r.stage = .accepted) ∨
        (Acceptor.Action.wait = .close ∧
          (⟨false, true, false, true, [Relay.accepted], 0, .waiting⟩ : Acceptor).cancelled = true ∧
          (⟨false, true, false, true, [Relay.accepted], 0, .waiting⟩ : Acceptor).watcherDone = true ∧
          (⟨false, true, false, true, [Relay.accepted], 0, .waiting⟩ : Acceptor).listenerClosed =
            true)) :=
  ⟨rfl, @close_returns ⟨false, true, false, true, [Relay.accepted], 0, .waiting⟩
    ⟨false, true, false, true, [Relay.accepted], 0, .returned⟩ .wait
    ⟨[.accept, .close], by decide⟩ rfl (by decide) rfl⟩

end SqlTap.Postgres
