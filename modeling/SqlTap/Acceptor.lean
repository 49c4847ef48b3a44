/-
This file models the proxy's acceptor and the goroutines it starts: `ListenAndServe`'s accept
loop and the goroutine that closes the listener once the context is done, one `handleConn` per
accepted connection (the dial, `relayStartup`, and `relay` with its two pumps), and `Close`,
which closes the listener and waits on the wait group. The accept loop's `lis.Accept` and
`p.wg.Go` are two steps, between which any other goroutine may move; `Close` is called once. Each relayed connection is seen at the
grain of messages: a socket is the proxy's end of a connection, with the messages its peer sent
that the proxy has not read. A run interleaves the goroutines' steps with those of the peers,
which send messages or close their ends.

`p.wg` counts the `handleConn` goroutines started and not returned (`counts_of_reachable`). Once
either pump of a relay has returned, `relay` closes both sockets, which fails the other pump's
read, and the relay ends with no help from the peers (`relay_drains`).

The context reaches a relay only through the dial and the pumps' `ctx.Err()` tests at the head
of their loops. A pump blocked in `Receive`, or `relayStartup` blocked on a read, stays blocked
as long as its peers send nothing, whatever else happens: cancellation closes the listener and no
socket (`blocked_relay_stays`). A relay whose peers are idle therefore never returns after the
context is cancelled, its sockets stay open, and a `Close` that closed the listener waits forever
(`cancel_leaves_relays_blocked`).
-/

import Mathlib.Data.List.Basic

namespace SqlTap.Postgres

/-! ### One relayed connection -/

/-- The proxy's end of one of a relay's connections: whether the proxy closed it, how many
messages the peer sent that the proxy has not read, and whether the peer closed its end. -/
structure Socket where
  closed : Bool
  pending : Nat
  hungUp : Bool
  deriving DecidableEq, Repr

/-- An open connection on which the peer sent nothing. -/
def Socket.silent : Socket := ⟨false, 0, false⟩

/-- What a `Receive` on a socket does now. -/
inductive Receipt where
  | message | failed | blocked
  deriving DecidableEq, Repr

/-- A read on a connection the proxy closed fails at once (`use of closed network connection`),
a message the peer sent is read, a connection the peer closed reads `io.EOF`; otherwise the read
blocks. -/
def Socket.receive (socket : Socket) : Receipt :=
  if socket.closed then .failed
  else if 0 < socket.pending then .message
  else if socket.hungUp then .failed
  else .blocked

/-- The two connections of a relay, and the pump that reads each. -/
inductive Side where
  | client | upstream
  deriving DecidableEq, Repr

/-- Where one pump, `relayClientToUpstream` or `relayUpstreamToClient`, is. -/
inductive Pump where
  /-- At the head of its loop, about to test `ctx.Err()`. -/
  | checking
  /-- Blocked in `Receive`. -/
  | receiving
  /-- Returned, its result sent on `errCh`. -/
  | returned
  deriving DecidableEq, Repr

/-- Where `handleConn` is. -/
inductive Stage where
  /-- `lis.Accept` returned the connection, and `p.wg.Go` has not yet started `handleConn`. -/
  | accepted
  /-- In `d.DialContext`. -/
  | dialing
  /-- In `relayStartup`, blocked in `c.client.ReceiveStartupMessage`. -/
  | startupPacket
  /-- In `relayStartup`'s loop, blocked in `c.upstream.Receive`. -/
  | authMessages
  /-- In `relay`, waiting for the first result on `errCh`. -/
  | relaying
  /-- In `relay`, the sockets closed after the first result, waiting for the second. -/
  | draining
  /-- `handleConn` returned, and its deferred calls closed both sockets. -/
  | returned
  deriving DecidableEq, Repr

/-- The message `relayStartup` reads from the upstream. -/
inductive AuthReply where
  | readyForQuery | errorResponse | other
  deriving DecidableEq, Repr

/-- One relayed connection. -/
structure Relay where
  stage : Stage
  client : Socket
  upstream : Socket
  clientToUpstream : Pump
  upstreamToClient : Pump
  deriving DecidableEq, Repr

/-- A connection `Accept` just returned. -/
def Relay.accepted : Relay := ⟨.accepted, .silent, .silent, .checking, .checking⟩

/-- A relay whose two pumps are blocked in `Receive` on connections on which nothing was sent. -/
def Relay.idle : Relay := ⟨.relaying, .silent, .silent, .receiving, .receiving⟩

/-- `handleConn` has not returned. -/
def Relay.live (r : Relay) : Bool := r.stage != .returned

/-- `handleConn` was started by `p.wg.Go` and has not returned: what the wait group counts. -/
def Relay.counted (r : Relay) : Bool := r.stage != .accepted && r.stage != .returned

/-- The socket the pump of a side reads. -/
def Relay.source (r : Relay) : Side → Socket
  | .client => r.client
  | .upstream => r.upstream

/-- The socket the pump of a side writes to. -/
def Relay.target (r : Relay) : Side → Socket
  | .client => r.upstream
  | .upstream => r.client

def Relay.pump (r : Relay) : Side → Pump
  | .client => r.clientToUpstream
  | .upstream => r.upstreamToClient

def Relay.setSource (r : Relay) (socket : Socket) : Side → Relay
  | .client => { r with client := socket }
  | .upstream => { r with upstream := socket }

def Relay.setPump (r : Relay) (pump : Pump) : Side → Relay
  | .client => { r with clientToUpstream := pump }
  | .upstream => { r with upstreamToClient := pump }

/-- `handleConn` returns; its deferred calls close both connections. -/
def Relay.finish (r : Relay) : Relay :=
  { r with
    stage := .returned
    client := { r.client with closed := true }
    upstream := { r.upstream with closed := true } }

/-- What can happen on one relayed connection: a step of one of its goroutines, or of a peer. -/
inductive Activity where
  /-- `d.DialContext` returns, having connected when `ok`. -/
  | dial (ok : Bool)
  /-- `relayStartup` reads the client's startup message and forwards it. -/
  | startupPacket
  /-- `relayStartup` reads one message from the upstream and forwards it. -/
  | authMessage (reply : AuthReply)
  /-- A pump tests `ctx.Err()`. -/
  | check (side : Side)
  /-- A pump's `Receive` returns; on a message, the pump forwards it to the other socket. -/
  | receive (side : Side)
  /-- `relay` takes the first result from `errCh` and closes both connections. -/
  | closeSockets
  /-- `relay` takes the second result, and `handleConn` returns. -/
  | finish
  /-- The peer on a side sends a message. -/
  | send (side : Side)
  /-- The peer on a side closes its end. -/
  | hangUp (side : Side)
  deriving DecidableEq, Repr

/-- A step of the proxy's goroutines, not of a peer. -/
def Activity.quiet : Activity → Bool
  | .send _ | .hangUp _ => false
  | _ => true

/-- A pump's step at the head of its loop: return on a cancelled context, else call `Receive`. -/
def Relay.check (cancelled : Bool) (r : Relay) (side : Side) : Option Relay :=
  if (r.stage = .relaying ∨ r.stage = .draining) ∧ r.pump side = .checking then
    some (r.setPump (if cancelled then .returned else .receiving) side)
  else none

/-- A pump's `Receive` returning: a message is forwarded, and a failed write to a closed
connection ends the pump as cleanly as a failed read does. -/
def Relay.receive (r : Relay) (side : Side) : Option Relay :=
  if (r.stage = .relaying ∨ r.stage = .draining) ∧ r.pump side = .receiving then
    match (r.source side).receive with
    | .message =>
      some (((r.setSource { r.source side with pending := (r.source side).pending - 1 } side).setPump
        (if (r.target side).closed then .returned else .checking) side))
    | .failed => some (r.setPump .returned side)
    | .blocked => none
  else none

/-- One activity on a relayed connection, when the context is cancelled or not; `none` when it
cannot happen now. -/
def Relay.step (cancelled : Bool) (r : Relay) : Activity → Option Relay
  | .dial ok =>
    if r.stage = .dialing then
      some (if cancelled || !ok then r.finish else { r with stage := .startupPacket })
    else none
  | .startupPacket =>
    if r.stage = .startupPacket then
      match r.client.receive with
      | .message =>
        some { r with
          stage := .authMessages
          client := { r.client with pending := r.client.pending - 1 } }
      | .failed => some r.finish
      | .blocked => none
    else none
  | .authMessage reply =>
    if r.stage = .authMessages then
      match r.upstream.receive with
      | .message =>
        let r := { r with upstream := { r.upstream with pending := r.upstream.pending - 1 } }
        match reply with
        | .readyForQuery => some { r with stage := .relaying }
        | .errorResponse => some r.finish
        | .other => some r
      | .failed => some r.finish
      | .blocked => none
    else none
  | .check side => r.check cancelled side
  | .receive side => r.receive side
  | .closeSockets =>
    if r.stage = .relaying ∧ (r.clientToUpstream = .returned ∨ r.upstreamToClient = .returned) then
      some { r with
        stage := .draining
        client := { r.client with closed := true }
        upstream := { r.upstream with closed := true } }
    else none
  | .finish =>
    if r.stage = .draining ∧ r.clientToUpstream = .returned ∧ r.upstreamToClient = .returned then
      some r.finish
    else none
  | .send side => some (r.setSource { r.source side with pending := (r.source side).pending + 1 } side)
  | .hangUp side => some (r.setSource { r.source side with hungUp := true } side)

@[simp] theorem Relay.stage_setSource (r : Relay) (socket : Socket) (side : Side) :
    (r.setSource socket side).stage = r.stage := by
  cases side <;> rfl

@[simp] theorem Relay.stage_setPump (r : Relay) (pump : Pump) (side : Side) :
    (r.setPump pump side).stage = r.stage := by
  cases side <;> rfl

/-- A returned `handleConn` stays returned. -/
theorem Relay.stage_step_of_returned {cancelled : Bool} {r r' : Relay} {activity : Activity}
    (returned : r.stage = .returned) (stepped : r.step cancelled activity = some r') :
    r'.stage = .returned := by
  cases activity <;> simp_all [Relay.step, Relay.check, Relay.receive] <;> subst stepped <;>
    simp [returned]

/-- No activity of a connection's own starts it: only `p.wg.Go` moves a relay on from `accepted`. -/
theorem Relay.stage_step_accepted {cancelled : Bool} {r r' : Relay} {activity : Activity}
    (stepped : r.step cancelled activity = some r') :
    r'.stage = .accepted ↔ r.stage = .accepted := by
  cases activity <;> simp only [Relay.step, Relay.check, Relay.receive] at stepped <;>
    (repeat' split at stepped) <;> cases stepped <;> simp_all [Relay.finish]

/-- A started relay is counted exactly while it is live. -/
theorem Relay.counted_of_started {r : Relay} (started : r.stage ≠ .accepted) : r.counted = r.live := by
  simp [Relay.counted, Relay.live, started]

@[simp] theorem Relay.source_setPump (r : Relay) (pump : Pump) (side other : Side) :
    (r.setPump pump side).source other = r.source other := by
  cases side <;> cases other <;> rfl

@[simp] theorem Relay.pump_setPump_self (r : Relay) (pump : Pump) (side : Side) :
    (r.setPump pump side).pump side = pump := by
  cases side <;> rfl

@[simp] theorem Relay.setPump_setPump (r : Relay) (first second : Pump) (side : Side) :
    (r.setPump first side).setPump second side = r.setPump second side := by
  cases side <;> rfl

theorem Relay.setPump_pump (r : Relay) (side : Side) : r.setPump (r.pump side) side = r := by
  cases side <;> rfl

/-! ### A relay ends once a pump has returned -/

/-- The activities of one connection in order, when each can happen. -/
def Relay.run (cancelled : Bool) (r : Relay) : List Activity → Option Relay
  | [] => some r
  | activity :: activities => (r.step cancelled activity).bind fun next => next.run cancelled activities

/-- The relay's own goroutines, with no help from the peers, can take it from `r` to `r'`. -/
def Relay.Drives (cancelled : Bool) (r r' : Relay) : Prop :=
  ∃ activities, (∀ activity ∈ activities, activity.quiet = true) ∧
    r.run cancelled activities = some r'

theorem Relay.Drives.single {cancelled : Bool} {r r' : Relay} {activity : Activity}
    (stepped : r.step cancelled activity = some r') (quiet : activity.quiet = true) :
    Relay.Drives cancelled r r' :=
  ⟨[activity], by simpa using quiet, by simp [Relay.run, stepped]⟩

theorem Relay.Drives.trans {cancelled : Bool} {r middle r' : Relay}
    (first : Relay.Drives cancelled r middle) (second : Relay.Drives cancelled middle r') :
    Relay.Drives cancelled r r' := by
  obtain ⟨firstActivities, firstQuiet, firstRan⟩ := first
  obtain ⟨secondActivities, secondQuiet, secondRan⟩ := second
  refine ⟨firstActivities ++ secondActivities, fun activity mem =>
    (List.mem_append.mp mem).elim (firstQuiet activity) (secondQuiet activity), ?_⟩
  clear firstQuiet
  induction firstActivities generalizing r with
  | nil => cases firstRan; exact secondRan
  | cons activity activities inductionHypothesis =>
    obtain ⟨next, stepped, rest⟩ := Option.bind_eq_some.mp firstRan
    simp only [List.cons_append, Relay.run, stepped, Option.some_bind]
    exact inductionHypothesis rest

/-- A pump of a relay that has closed its connections returns by itself: its `ctx.Err()` test
either ends it or leads to a read, and a read of a closed connection fails. -/
theorem Relay.pump_returns (cancelled : Bool) {r : Relay} (draining : r.stage = .draining)
    (side : Side) (closed : (r.source side).closed = true) :
    Relay.Drives cancelled r (r.setPump .returned side) := by
  have read : ∀ {r : Relay}, r.stage = .draining → (r.source side).closed = true →
      r.pump side = .receiving → r.step cancelled (.receive side) = some (r.setPump .returned side) :=
    fun draining closed receiving => by
      simp [Relay.step, Relay.receive, draining, receiving, Socket.receive, closed]
  cases pump : r.pump side with
  | returned => rw [← pump, Relay.setPump_pump]; exact ⟨[], by simp, rfl⟩
  | receiving => exact .single (read draining closed pump) rfl
  | checking =>
    have check : r.step cancelled (.check side) =
        some (r.setPump (if cancelled then .returned else .receiving) side) := by
      simp [Relay.step, Relay.check, draining, pump]
    cases cancelled with
    | true => exact .single check rfl
    | false =>
      have receive := @read (r.setPump .receiving side) (by simpa using draining)
        (by simpa using closed) (by simp)
      rw [Relay.setPump_setPump] at receive
      exact (Drives.single check rfl).trans (.single receive rfl)

/-- Once either pump of a relay has returned, the relay ends without any help from the peers:
`relay` closes both connections, the other pump returns, and `handleConn` returns, the two
connections closed. -/
theorem relay_drains (cancelled : Bool) {r : Relay} (relaying : r.stage = .relaying)
    (pumpReturned : r.clientToUpstream = .returned ∨ r.upstreamToClient = .returned) :
    ∃ r', Relay.Drives cancelled r r' ∧ r'.stage = .returned ∧ r'.client.closed = true ∧
      r'.upstream.closed = true := by
  let closed : Relay := { r with
    stage := .draining
    client := { r.client with closed := true }
    upstream := { r.upstream with closed := true } }
  have closeSockets : Relay.Drives cancelled r closed :=
    .single (show r.step cancelled .closeSockets = some closed by
      simp [Relay.step, relaying, pumpReturned, closed]) rfl
  let drained := (closed.setPump .returned .client).setPump .returned .upstream
  have pumpsReturn : Relay.Drives cancelled closed drained :=
    (@Relay.pump_returns cancelled closed rfl .client rfl).trans
      (@Relay.pump_returns cancelled (closed.setPump .returned .client) rfl .upstream rfl)
  have finish : drained.step cancelled .finish = some drained.finish := by
    simp [Relay.step, drained, closed, Relay.setPump]
  exact ⟨_, closeSockets.trans (pumpsReturn.trans (.single finish rfl)), rfl, rfl, rfl⟩

/-- A relay whose client hung up: its pump from the client has returned while the other is
blocked in `Receive`. -/
theorem relay_drains_afterHangUp :
    ∃ r', Relay.Drives true ⟨.relaying, ⟨false, 0, true⟩, .silent, .returned, .receiving⟩ r' ∧
      r'.stage = .returned ∧ r'.client.closed = true ∧ r'.upstream.closed = true :=
  relay_drains true rfl (.inl rfl)

/-- No goroutine of the relay can move, cancelled context or not, until a peer does. -/
def Relay.Blocked (r : Relay) : Prop :=
  ∀ cancelled activity, activity.quiet = true → r.step cancelled activity = none

/-- `relayStartup` blocked on a read, or both pumps blocked in `Receive`: nothing but a peer
moves the relay on, and the context is not looked at. -/
theorem Relay.blocked_of_waiting {r : Relay}
    (waiting : (r.stage = .startupPacket ∧ r.client.receive = .blocked) ∨
      (r.stage = .authMessages ∧ r.upstream.receive = .blocked) ∨
      (r.stage = .relaying ∧ r.clientToUpstream = .receiving ∧ r.upstreamToClient = .receiving ∧
        r.client.receive = .blocked ∧ r.upstream.receive = .blocked)) :
    r.Blocked := by
  intro cancelled activity quiet
  rcases waiting with ⟨stage, client⟩ | ⟨stage, upstream⟩ |
    ⟨stage, clientPump, upstreamPump, client, upstream⟩
  all_goals
    cases activity with
    | check side | receive side =>
      cases side <;> simp_all [Relay.step, Relay.check, Relay.receive, Relay.pump, Relay.source]
    | _ => simp_all [Relay.step, Activity.quiet]

/-! ### The acceptor -/

/-- Where `Close` is. -/
inductive Closer where
  | notCalled
  /-- In `p.wg.Wait`, the listener closed. -/
  | waiting
  | returned
  deriving DecidableEq, Repr

/-- The proxy once `ListenAndServe` listens: whether the context is cancelled, whether the
listener is closed, whether the goroutine watching the context has closed it, whether the accept
loop still runs, the accepted connections in order, `p.wg`'s counter, and `Close`. -/
structure Acceptor where
  cancelled : Bool
  listenerClosed : Bool
  watcherDone : Bool
  serving : Bool
  relays : List Relay
  inFlight : Nat
  closer : Closer
  deriving DecidableEq, Repr

def Acceptor.initial : Acceptor := ⟨false, false, false, true, [], 0, .notCalled⟩

/-- A step of one of the proxy's goroutines, of a peer, or of the context's owner. -/
inductive Acceptor.Action where
  /-- The context is cancelled. -/
  | cancel
  /-- The goroutine watching the context sees it done and closes the listener. -/
  | watcher
  /-- `lis.Accept` returns a connection. -/
  | accept
  /-- `p.wg.Go` adds one to the wait group and starts `handleConn` on the connection at `index`,
  the one `lis.Accept` returned. -/
  | go (index : Nat)
  /-- `lis.Accept` fails on the closed listener, and `ListenAndServe` returns. -/
  | acceptFails
  /-- `Close` closes the listener, or returns the error of closing it a second time. -/
  | close
  /-- `p.wg.Wait` returns, and `Close` with it. -/
  | wait
  /-- Something happens on the `index`-th accepted connection. -/
  | relay (index : Nat) (activity : Activity)
  deriving DecidableEq, Repr

/-- One step of the proxy; `none` when it cannot happen now. -/
def Acceptor.step (s : Acceptor) : Acceptor.Action → Option Acceptor
  | .cancel => some { s with cancelled := true }
  | .watcher =>
    if s.cancelled ∧ !s.watcherDone then some { s with watcherDone := true, listenerClosed := true }
    else none
  | .accept =>
    if s.serving ∧ s.relays.all (·.stage != .accepted) ∧ !s.listenerClosed then
      some { s with relays := s.relays ++ [.accepted] }
    else none
  | .go index =>
    match s.relays[index]? with
    | some r =>
      if r.stage = .accepted then
        some { s with relays := s.relays.set index { r with stage := .dialing }, inFlight := s.inFlight + 1 }
      else none
    | none => none
  | .acceptFails =>
    if s.serving ∧ s.relays.all (·.stage != .accepted) ∧ s.listenerClosed then
      some { s with serving := false }
    else none
  | .close =>
    if s.closer = .notCalled then
      some (if s.listenerClosed then { s with closer := .returned }
        else { s with listenerClosed := true, closer := .waiting })
    else none
  | .wait => if s.closer = .waiting ∧ s.inFlight = 0 then some { s with closer := .returned } else none
  | .relay index activity =>
    match s.relays[index]? with
    | some r =>
      (r.step s.cancelled activity).map fun r' =>
        { s with
          relays := s.relays.set index r'
          inFlight := if r.live ∧ !r'.live then s.inFlight - 1 else s.inFlight }
    | none => none

/-- The steps of a run, in order, when each can be taken. -/
def Acceptor.run (s : Acceptor) : List Acceptor.Action → Option Acceptor
  | [] => some s
  | action :: actions => (s.step action).bind fun next => next.run actions

def Acceptor.Reachable (s : Acceptor) : Prop := ∃ actions, Acceptor.initial.run actions = some s

/-- What `p.wg.Go` does: it counts the connection at `index`, one `lis.Accept` returned, and
starts its `handleConn`. -/
theorem Acceptor.step_go {s s' : Acceptor} {index : Nat} (stepped : s.step (.go index) = some s') :
    ∃ r, s.relays[index]? = some r ∧ r.stage = .accepted ∧
      s' = { s with
        relays := s.relays.set index { r with stage := .dialing }
        inFlight := s.inFlight + 1 } := by
  simp only [Acceptor.step] at stepped
  split at stepped
  · split at stepped
    · cases stepped
      exact ⟨_, ‹_›, ‹_›, rfl⟩
    · cases stepped
  · cases stepped

/-- What a step on the connection at `index` does: its relay steps, and the wait group loses it
when its `handleConn` returns. -/
theorem Acceptor.step_relay {s s' : Acceptor} {index : Nat} {activity : Activity}
    (stepped : s.step (.relay index activity) = some s') :
    ∃ r r', s.relays[index]? = some r ∧ r.step s.cancelled activity = some r' ∧
      s' = { s with
        relays := s.relays.set index r'
        inFlight := if r.live ∧ !r'.live then s.inFlight - 1 else s.inFlight } := by
  simp only [Acceptor.step] at stepped
  split at stepped
  · obtain ⟨r', relayStepped, rfl⟩ := Option.map_eq_some'.mp stepped
    exact ⟨_, r', ‹_›, relayStepped, rfl⟩
  · cases stepped

/-! ### The wait group counts the live handlers -/

/-- `p.wg`'s counter is the number of `handleConn` goroutines started and not returned. -/
def Acceptor.Counts (s : Acceptor) : Prop := s.inFlight = s.relays.countP Relay.counted

/-- Replacing one element moves a count by the difference of the two. -/
theorem countP_set_add {α : Type} (p : α → Bool) :
    ∀ (l : List α) (index : Nat) {old : α} (new : α), l[index]? = some old →
      (l.set index new).countP p + (if p old then 1 else 0) = l.countP p + (if p new then 1 else 0)
  | [], _, _, _, found => by cases found
  | head :: tail, 0, _, new, found => by
    simp only [List.getElem?_cons_zero, Option.some.injEq] at found
    subst found
    simp only [List.set_cons_zero, List.countP_cons]
    omega
  | head :: tail, index + 1, _, new, found => by
    rw [List.getElem?_cons_succ] at found
    have inductionHypothesis := countP_set_add p tail index new found
    simp only [List.set_cons_succ, List.countP_cons]
    omega

theorem Acceptor.counts_step {s s' : Acceptor} {action : Acceptor.Action} (counts : s.Counts)
    (stepped : s.step action = some s') : s'.Counts := by
  unfold Acceptor.Counts at counts ⊢
  cases action with
  | accept =>
    simp only [Acceptor.step, Option.ite_none_right_eq_some, Option.some.injEq] at stepped
    obtain ⟨-, rfl⟩ := stepped
    simp [counts, Relay.accepted, Relay.counted]
  | go index =>
    obtain ⟨r, found, accepted, rfl⟩ := Acceptor.step_go stepped
    have moved := countP_set_add Relay.counted s.relays index { r with stage := .dialing } found
    simp only [Relay.counted, accepted, bne_self_eq_false, Bool.false_and, if_false] at moved
    simp only [counts]
    simpa using moved.symm
  | relay index activity =>
    obtain ⟨r, r', found, relayStepped, rfl⟩ := Acceptor.step_relay stepped
    have moved := countP_set_add Relay.counted s.relays index r' found
    have pending := Relay.stage_step_accepted relayStepped
    by_cases accepted : r.stage = .accepted
    · have stillAccepted := pending.mpr accepted
      simp only [Relay.counted, Relay.live, accepted, stillAccepted] at moved ⊢
      simpa [counts] using moved.symm
    · have revived : r'.live = true → r.live = true := fun live => by
        by_contra dead
        simp only [Relay.live, bne_iff_ne, ne_eq, Decidable.not_not] at dead live
        exact live (Relay.stage_step_of_returned dead relayStepped)
      rw [Relay.counted_of_started accepted,
        Relay.counted_of_started fun same => accepted (pending.mp same)] at moved
      cases liveBefore : r.live <;> cases liveAfter : r'.live <;> simp_all
      omega
  | _ =>
    simp only [Acceptor.step] at stepped
    repeat' split at stepped
    all_goals first | cases stepped; exact counts | cases stepped

theorem Acceptor.counts_run {s : Acceptor} (counts : s.Counts) :
    ∀ {actions : List Acceptor.Action} {s' : Acceptor}, s.run actions = some s' → s'.Counts
  | [], _, ran => by cases ran; exact counts
  | action :: actions, _, ran => by
    obtain ⟨next, stepped, rest⟩ := Option.bind_eq_some.mp ran
    exact Acceptor.counts_run (Acceptor.counts_step counts stepped) rest

theorem Acceptor.counts_of_reachable {s : Acceptor} (reachable : s.Reachable) : s.Counts :=
  let ⟨_, ran⟩ := reachable
  Acceptor.counts_run (show Acceptor.initial.Counts from rfl) ran

/-! ### Cancellation does not reach a blocked relay -/

/-- Nothing happens on the `index`-th connection's peers. -/
def Acceptor.Action.quietFor (index : Nat) : Acceptor.Action → Bool
  | .relay other activity => other != index || activity.quiet
  | _ => true

/-- The frame lemma: a step in which the peers of a blocked relay do nothing leaves it as it is,
whatever the other connections, the context and `Close` do. -/
theorem Acceptor.relay_step_of_blocked {s s' : Acceptor} {action : Acceptor.Action} {index : Nat}
    {r : Relay} (blocked : r.Blocked) (started : r.stage ≠ .accepted)
    (found : s.relays[index]? = some r) (quiet : action.quietFor index = true)
    (stepped : s.step action = some s') : s'.relays[index]? = some r := by
  cases action with
  | accept =>
    simp only [Acceptor.step, Option.ite_none_right_eq_some, Option.some.injEq] at stepped
    obtain ⟨-, rfl⟩ := stepped
    rwa [List.getElem?_append_left (List.getElem?_eq_some_iff.mp found).1]
  | go other =>
    obtain ⟨pending, foundOther, accepted, rfl⟩ := Acceptor.step_go stepped
    have different : other ≠ index := fun same => by
      subst same
      rw [found, Option.some.injEq] at foundOther
      exact started (foundOther ▸ accepted)
    rwa [List.getElem?_set_ne different]
  | relay other activity =>
    obtain ⟨touched, r', foundOther, relayStepped, rfl⟩ := Acceptor.step_relay stepped
    by_cases same : other = index
    · subst same
      rw [found, Option.some.injEq] at foundOther
      subst foundOther
      simp only [Acceptor.Action.quietFor, bne_self_eq_false, Bool.false_or] at quiet
      simp [blocked _ _ quiet] at relayStepped
    · rwa [List.getElem?_set_ne same]
  | _ =>
    simp only [Acceptor.step] at stepped
    repeat' split at stepped
    all_goals first | cases stepped; exact found | cases stepped

/-- Only `Close` and its wait move `Close` on. -/
theorem Acceptor.closer_step {s s' : Acceptor} {action : Acceptor.Action}
    (stepped : s.step action = some s') (notClose : action ≠ .close) (notWait : action ≠ .wait) :
    s'.closer = s.closer := by
  cases action with
  | close => exact absurd rfl notClose
  | wait => exact absurd rfl notWait
  | relay index activity =>
    obtain ⟨_, _, -, -, rfl⟩ := Acceptor.step_relay stepped
    rfl
  | _ =>
    simp only [Acceptor.step] at stepped
    repeat' split at stepped
    all_goals cases stepped
    all_goals rfl

/-- While a live handler remains, `p.wg.Wait` does not return. -/
theorem Acceptor.closer_step_of_waiting {s s' : Acceptor} {action : Acceptor.Action}
    (waiting : s.closer = .waiting) (inFlight : 0 < s.inFlight) (stepped : s.step action = some s') :
    s'.closer = .waiting := by
  cases action with
  | close => simp [Acceptor.step, waiting] at stepped
  | wait => simp [Acceptor.step, waiting, inFlight.ne'] at stepped
  | _ => exact (Acceptor.closer_step stepped nofun nofun).trans waiting

/-- The run lemma: from a reachable state, a relay whose goroutines are blocked on reads stays as
it is in every run in which its peers send nothing, whatever the context, the listener, the other
connections and `Close` do; and a `Close` waiting on the wait group keeps waiting. -/
theorem blocked_relay_stays {s : Acceptor} (counts : s.Counts) {index : Nat} {r : Relay}
    (blocked : r.Blocked) (started : r.stage ≠ .accepted) (live : r.live = true)
    (found : s.relays[index]? = some r) :
    ∀ {actions : List Acceptor.Action} {s' : Acceptor},
      (∀ action ∈ actions, action.quietFor index = true) → s.run actions = some s' →
      s'.relays[index]? = some r ∧ (s.closer = .waiting → s'.closer = .waiting)
  | [], _, _, ran => by cases ran; exact ⟨found, id⟩
  | action :: actions, _, quiet, ran => by
    obtain ⟨next, stepped, rest⟩ := Option.bind_eq_some.mp ran
    have inFlight : 0 < s.inFlight := by
      rw [counts, List.countP_pos_iff]
      exact ⟨r, List.mem_iff_getElem?.mpr ⟨index, found⟩, Relay.counted_of_started started ▸ live⟩
    have ⟨stays, keepsWaiting⟩ := blocked_relay_stays (Acceptor.counts_step counts stepped) blocked
      started live (Acceptor.relay_step_of_blocked blocked started found (quiet action (.head _)) stepped)
      (fun action mem => quiet action (.tail _ mem)) rest
    exact ⟨stays, fun waiting =>
      keepsWaiting (Acceptor.closer_step_of_waiting waiting inFlight stepped)⟩

/-- A connection relayed up to the pumps, each then blocked in `Receive`, after which the context
is cancelled, `Close` closes the listener, and the watching goroutine and the accept loop end. -/
def idleThenCancel : List Acceptor.Action :=
  [.accept, .go 0, .relay 0 (.dial true), .relay 0 (.send .client), .relay 0 .startupPacket,
    .relay 0 (.send .upstream), .relay 0 (.authMessage .readyForQuery), .relay 0 (.check .client),
    .relay 0 (.check .upstream), .cancel, .close, .watcher, .acceptFails]

/-- The proxy after `idleThenCancel`. -/
def cancelledWhileIdle : Acceptor := ⟨true, true, true, false, [Relay.idle], 1, .waiting⟩

/-- A client that connects, authenticates and then sends nothing, when the proxy is cancelled
and closed: in every run after that in which its two peers send nothing (other clients may come
and go), both pumps stay blocked in `Receive` on the two open connections, the relay never
returns, and `Close` waits forever. -/
theorem cancel_leaves_relays_blocked :
    Acceptor.initial.run idleThenCancel = some cancelledWhileIdle ∧
      cancelledWhileIdle.cancelled = true ∧ cancelledWhileIdle.closer = .waiting ∧
      ∀ (actions : List Acceptor.Action) (s' : Acceptor),
        (∀ action ∈ actions, action.quietFor 0 = true) → cancelledWhileIdle.run actions = some s' →
        s'.relays[0]? = some Relay.idle ∧ s'.closer = .waiting := by
  have ran : Acceptor.initial.run idleThenCancel = some cancelledWhileIdle := by decide
  have blocked : Relay.idle.Blocked :=
    Relay.blocked_of_waiting (.inr (.inr ⟨rfl, rfl, rfl, rfl, rfl⟩))
  refine ⟨ran, rfl, rfl, fun actions s' quiet rest => ?_⟩
  have ⟨stays, keepsWaiting⟩ :=
    blocked_relay_stays (Acceptor.counts_of_reachable ⟨_, ran⟩) blocked (by decide) rfl rfl quiet rest
  exact ⟨stays, keepsWaiting rfl⟩

end SqlTap.Postgres
