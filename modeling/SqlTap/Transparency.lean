/-
This file proves that the proxy is transparent to the two parties of a session for as long as it
writes every message back as it was read and has not closed the connections. Whatever pgproto3,
the client and the upstream are, and in whatever order the three move, a run through the proxy
then takes the parties through the same states as the run of the direct session in which the
same parties make the same steps in the same order (`proxy_refines_direct`). Both conditions
are needed: pgproto3 writes a StartupMessage back with each key once and its parameters in map
order, and a read on a closed connection ends short, where the direct session would wait.

A session through the proxy is read as a direct session by forgetting the proxy: the bytes the
upstream has still to read are those in flight towards it followed by those the proxy has not
yet read from the client, and the same towards the client (`Session.direct`). A step of a party
on an open connection is the same step of that party in the direct session, since a party that
can read what it waits for reads the same bytes when more follow. A step of the proxy moves a
message from the head of its input to the end of its output, or only changes phase, and so
changes nothing the parties see when it writes the message back as read.

The converse does not hold: during startup the proxy can stop where the direct session goes on,
which the relay module shows on two sessions. Once the pumps run it holds back no whole message:
by its own steps the proxy forwards every whole message it holds, or ends the relay on one
pgproto3 refuses, so that what it still holds in each direction is less than a message
(`pumps_forward_whole_messages`).
-/

import SqlTap.Relay

namespace SqlTap.Postgres

/-! ### A party reads the same bytes when more follow -/

/-- A step a party can take on its unread bytes of an open connection it takes, with the same
result, when more bytes follow them; and it reads no more than were there. -/
theorem Peer.step_append {peer next : Peer} {inbox written : Bytes} {read : Nat}
    (stepped : peer.step inbox false = some (next, written, read)) (more : Bytes) :
    read ≤ inbox.length ∧ peer.step (inbox ++ more) false = some (next, written, read) := by
  cases peer with
  | send bytes following =>
    simp only [Peer.step, Option.some.injEq, Prod.mk.injEq] at stepped ⊢
    obtain ⟨rfl, rfl, rfl⟩ := stepped
    exact ⟨Nat.zero_le _, rfl, rfl, rfl⟩
  | recv count following =>
    simp only [Peer.step, Bool.false_eq_true, if_false] at stepped ⊢
    split at stepped
    · next enough =>
      simp only [Option.some.injEq, Prod.mk.injEq] at stepped
      obtain ⟨rfl, rfl, rfl⟩ := stepped
      have longer : count ≤ (inbox ++ more).length := by simp only [List.length_append]; omega
      simp only [longer, if_true, List.take_append_of_le_length enough]
      exact ⟨enough, trivial⟩
    · cases stepped
  | done => cases stepped

/-! ### Forgetting the proxy -/

/-- One step of the client (`true`) or of the upstream (`false`), or `none` for a step of the
proxy. -/
def Move.party : Move → Option Bool
  | .client => some true
  | .upstream => some false
  | .relayStartup | .clientToUpstream | .upstreamToClient | .relay => none

section Transparency

variable {pg : Pgproto}

/-- The direct session a session through the proxy stands for. -/
def Session.direct (s : Session pg) : Direct :=
  ⟨s.client, s.upstream, s.toUpstream ++ s.fromClient, s.toClient ++ s.fromUpstream,
    s.clientReceived⟩

/-- The messages the proxy read between `s` and a later state `s'`, with what it wrote back for
each. -/
def Session.forwardedSince (s' s : Session pg) : List (Bytes × Bytes) :=
  s'.clientMessages.drop s.clientMessages.length ++
    s'.upstreamMessages.drop s.upstreamMessages.length

/-- Along a run the proxy's record of messages only grows, and once the relay has ended it stays
ended. -/
structure Session.Grows (s s' : Session pg) : Prop where
  clientMessages : ∃ more, s'.clientMessages = s.clientMessages ++ more
  upstreamMessages : ∃ more, s'.upstreamMessages = s.upstreamMessages ++ more
  ended : s.phase = .ended → s'.phase = .ended

theorem Session.Grows.trans {s next s' : Session pg} (first : s.Grows next)
    (second : next.Grows s') : s.Grows s' := by
  obtain ⟨⟨clientMore, clientFirst⟩, ⟨upstreamMore, upstreamFirst⟩, endedFirst⟩ := first
  obtain ⟨⟨clientMore', clientSecond⟩, ⟨upstreamMore', upstreamSecond⟩, endedSecond⟩ := second
  exact ⟨⟨clientMore ++ clientMore', by simp [clientSecond, clientFirst]⟩,
    ⟨upstreamMore ++ upstreamMore', by simp [upstreamSecond, upstreamFirst]⟩,
    endedSecond ∘ endedFirst⟩

/-- What the proxy forwarded between two states of a run was forwarded between the first and
any later state. -/
theorem Session.Grows.forwardedSince {s next s' : Session pg} (first : s.Grows next)
    (second : next.Grows s') {entry : Bytes × Bytes}
    (forwarded : entry ∈ next.forwardedSince s ∨ entry ∈ s'.forwardedSince next) :
    entry ∈ s'.forwardedSince s := by
  obtain ⟨⟨clientMore, clientFirst⟩, ⟨upstreamMore, upstreamFirst⟩, -⟩ := first
  obtain ⟨⟨clientMore', clientSecond⟩, ⟨upstreamMore', upstreamSecond⟩, -⟩ := second
  simp only [Session.forwardedSince, clientSecond, clientFirst, upstreamSecond, upstreamFirst,
    List.append_assoc, List.length_append, List.drop_append, List.drop_left,
    List.mem_append] at forwarded ⊢
  tauto

theorem Session.mem_of_forwardedSince {s s' : Session pg} {entry : Bytes × Bytes}
    (forwarded : entry ∈ s'.forwardedSince s) :
    entry ∈ s'.clientMessages ++ s'.upstreamMessages := by
  simp only [Session.forwardedSince, List.mem_append] at forwarded ⊢
  exact forwarded.imp List.mem_of_mem_drop List.mem_of_mem_drop

theorem Session.grows_step {s s' : Session pg} {move : Move} (stepped : s.step move = some s') :
    s.Grows s' := by
  cases move with
  | client | upstream =>
    obtain ⟨_, -, rfl⟩ := Option.map_eq_some'.mp stepped
    exact ⟨⟨[], by simp⟩, ⟨[], by simp⟩, id⟩
  | _ =>
    rcases Session.proxy_step_cases ⟨by decide, by decide⟩ stepped with
      ⟨phase, rfl, -, ends⟩ | ⟨_, _, _, startup, -, rfl⟩ |
      ⟨_, _, _, -, -, notEnded, -, rfl⟩ | ⟨_, _, _, _, -, notEnded, -, -, rfl⟩
    · exact ⟨⟨[], by simp⟩, ⟨[], by simp⟩, fun ended => ends.resolve_right fun live => live.2 ended⟩
    · exact ⟨⟨_, rfl⟩, ⟨[], by simp [Session.forwardToUpstream]⟩, fun ended => by simp_all⟩
    · exact ⟨⟨_, rfl⟩, ⟨[], by simp [Session.forwardToUpstream]⟩, fun ended => absurd ended notEnded⟩
    · exact ⟨⟨[], by simp [Session.forwardToClient]⟩, ⟨_, rfl⟩, fun ended => absurd ended notEnded⟩

theorem Session.grows_run {s s' : Session pg} {moves : List Move} (ran : s.run moves = some s') :
    s.Grows s' := by
  induction moves generalizing s with
  | nil =>
    cases ran
    exact ⟨⟨[], by simp⟩, ⟨[], by simp⟩, id⟩
  | cons move moves inductionHypothesis =>
    obtain ⟨next, stepped, rest⟩ := Option.bind_eq_some.mp ran
    exact (Session.grows_step stepped).trans (inductionHypothesis rest)

/-- A step of the proxy changes nothing the parties see when it writes back as read what it
reads. -/
theorem Session.direct_proxy_step {s s' : Session pg} {move : Move} (proxy : move.party = none)
    (stepped : s.step move = some s')
    (asRead : ∀ entry ∈ s'.forwardedSince s, entry.2 = entry.1) : s'.direct = s.direct := by
  have notParty : move ≠ .client ∧ move ≠ .upstream := by cases move <;> simp_all [Move.party]
  rcases Session.proxy_step_cases notParty stepped with
    ⟨phase, rfl, -⟩ | ⟨packet, request, rest, -, read, rfl⟩ |
    ⟨frame, written, rest, -, -, -, read, rfl⟩ | ⟨frame, written, rest, phase, -, -, -, read, rfl⟩
  · rfl
  · have same : (request.packet pg.order).encode = packet.encode :=
      asRead (packet.encode, (request.packet pg.order).encode)
      (by simp [Session.forwardedSince, Session.forwardToUpstream])
    simp only [Session.direct, Session.forwardToUpstream, List.append_assoc, same,
      (encode_of_receiveStartupMessage read).2.2.2]
  · have same : written = frame.encode := asRead (frame.encode, written)
      (by simp [Session.forwardedSince, Session.forwardToUpstream])
    simp only [Session.direct, Session.forwardToUpstream, List.append_assoc, same,
      (encode_of_receive read).2]
  · have same : written = frame.encode := asRead (frame.encode, written)
      (by simp [Session.forwardedSince, Session.forwardToClient])
    simp only [Session.direct, Session.forwardToClient, List.append_assoc, same,
      (encode_of_receive read).2]

/-- A step of a party on open connections is the same step of that party in the direct
session. -/
theorem Session.direct_party_step {s s' : Session pg} {move : Move} {party : Bool}
    (isParty : move.party = some party) (stepped : s.step move = some s')
    (notEnded : s.phase ≠ .ended) : s.direct.step party = some s'.direct := by
  have notClosed : s.closed = false := by simp [Session.closed, notEnded]
  cases move with
  | client =>
    cases isParty
    simp only [Session.step, notClosed, Option.map_eq_some'] at stepped
    obtain ⟨⟨next, written, read⟩, clientStep, rfl⟩ := stepped
    obtain ⟨bounded, longer⟩ := Peer.step_append clientStep s.fromUpstream
    simp only [Session.direct, Direct.step, longer, Option.map_some', List.append_assoc,
      List.drop_append_of_le_length bounded, List.take_append_of_le_length bounded]
  | upstream =>
    cases isParty
    simp only [Session.step, notClosed, Option.map_eq_some'] at stepped
    obtain ⟨⟨next, written, read⟩, upstreamStep, rfl⟩ := stepped
    obtain ⟨bounded, longer⟩ := Peer.step_append upstreamStep s.fromClient
    simp only [Session.direct, Direct.step, longer, Option.map_some', List.append_assoc,
      List.drop_append_of_le_length bounded]
  | relayStartup | clientToUpstream | upstreamToClient | relay => cases isParty

end Transparency

/-! ### The proxy is transparent -/

/-- Whatever pgproto3 and the two parties are, and whatever the order of steps, a run through
the proxy in which every message the proxy read was written back as read, and which has not
ended the relay, ends where the direct session between the same parties ends when they make the
same steps in the same order: each party is in the same state, each has the same bytes still to
read, counting those the proxy holds, and the client has read the same bytes. -/
theorem proxy_refines_direct (pg : Pgproto) (client upstream : Peer) (moves : List Move)
    (s' : Session pg) (ran : (Session.opened pg client upstream).run moves = some s')
    (notEnded : s'.phase ≠ .ended)
    (asRead : ∀ entry ∈ s'.clientMessages ++ s'.upstreamMessages, entry.2 = entry.1) :
    (Direct.start client upstream).run (moves.filterMap Move.party) = some s'.direct := by
  show (Session.opened pg client upstream).direct.run _ = _
  generalize Session.opened pg client upstream = s at ran ⊢
  induction moves generalizing s with
  | nil => cases ran; rfl
  | cons move moves inductionHypothesis =>
    obtain ⟨next, stepped, rest⟩ := Option.bind_eq_some.mp ran
    have later := Session.grows_run rest
    cases party : move.party with
    | none =>
      have sameAsRead : ∀ entry ∈ next.forwardedSince s, entry.2 = entry.1 := fun entry member =>
        asRead entry <| Session.mem_of_forwardedSince
          ((Session.grows_step stepped).forwardedSince later (.inl member))
      rw [List.filterMap_cons_none party, ← Session.direct_proxy_step party stepped sameAsRead]
      exact inductionHypothesis next rest
    | some party' =>
      have stillOpen : s.phase ≠ .ended := fun ended =>
        notEnded (later.ended ((Session.grows_step stepped).ended ended))
      rw [List.filterMap_cons_some party, Direct.run,
        Session.direct_party_step party stepped stillOpen]
      exact inductionHypothesis next rest

/-- The password session, which stops through the proxy during startup: every message was
written back as read, and what it did through the proxy the direct session does too. -/
theorem proxy_refines_direct_password :
    passwordProxied.phase ≠ .ended ∧
      (∀ entry ∈ passwordProxied.clientMessages ++ passwordProxied.upstreamMessages,
        entry.2 = entry.1) ∧
      (Direct.start passwordClient passwordServer).run (passwordMoves.filterMap Move.party) =
        some passwordProxied.direct :=
  ⟨by decide, by decide,
    proxy_refines_direct Pgproto.roundTrip passwordClient passwordServer passwordMoves
      passwordProxied rfl (by decide) (by decide)⟩

/-! ### The pumps hold back no whole message -/

section Pumps

variable {pg : Pgproto}

/-- A read that returns a message takes at least its five header bytes. -/
theorem receive_shortens {codec : Codec} {bytes rest : Bytes} {message : Frame × Bytes}
    (read : receive codec bytes = .done message rest) : rest.length < bytes.length := by
  rw [(encode_of_receive read).2]
  simp only [Frame.encode, List.length_cons, List.length_append]
  omega

/-- The proxy, with no step of either party, can take the session from `s` to `s'`. -/
def Session.ProxyRuns (s s' : Session pg) : Prop :=
  ∃ moves : List Move, (∀ move ∈ moves, move.party = none) ∧ s.run moves = some s'

theorem Session.ProxyRuns.cons {s next s' : Session pg} {move : Move} (proxy : move.party = none)
    (stepped : s.step move = some next) (rest : next.ProxyRuns s') : s.ProxyRuns s' := by
  obtain ⟨moves, proxyOnly, ran⟩ := rest
  exact ⟨move :: moves, by simpa [proxy] using proxyOnly, by simp [Session.run, stepped, ran]⟩

/-- The proxy's steps change nothing the parties see when every message they forward is
written back as read. -/
theorem Session.ProxyRuns.direct_eq {s s' : Session pg} (runs : s.ProxyRuns s')
    (asRead : ∀ entry ∈ s'.forwardedSince s, entry.2 = entry.1) : s'.direct = s.direct := by
  obtain ⟨moves, proxyOnly, ran⟩ := runs
  induction moves generalizing s with
  | nil => cases ran; rfl
  | cons move moves inductionHypothesis =>
    obtain ⟨next, stepped, rest⟩ := Option.bind_eq_some.mp ran
    have first := Session.grows_step stepped
    have later := Session.grows_run rest
    rw [inductionHypothesis (fun entry member => asRead entry (first.forwardedSince later (.inr member)))
        (fun move member => proxyOnly move (.tail _ member)) rest,
      Session.direct_proxy_step (proxyOnly move (.head _)) stepped
        fun entry member => asRead entry (first.forwardedSince later (.inl member))]

/-- The relay has ended, or in each direction less than a whole message is unread. -/
def Session.Settled (s : Session pg) : Prop :=
  s.phase = .ended ∨
    (s.phase = .pumping ∧ receive pg.backend s.fromClient = .wait ∧
      receive pg.frontend s.fromUpstream = .wait)

/-- The move of a pump. -/
def Direction.move : Direction → Move
  | .clientToUpstream => .clientToUpstream
  | .upstreamToClient => .upstreamToClient

theorem Direction.move_party (direction : Direction) : direction.move.party = none := by
  cases direction <;> rfl

theorem Session.step_move (s : Session pg) (direction : Direction) :
    s.step direction.move = s.pump direction := by
  cases direction <;> rfl

/-- From the relay phase, a pump that refuses a message returns, and `relay` then closes both
connections. -/
theorem Session.settles_of_refused {s : Session pg} {direction : Direction}
    (pumping : s.phase = .pumping)
    (refused : receive (pg.reader direction) (s.unread direction) = .fail) :
    ∃ s', s.ProxyRuns s' ∧ s'.Settled := by
  have pumped : s.step direction.move = some { s with phase := s.phase.returns direction } := by
    simp [Session.step_move, Session.pump, pumping, RelayPhase.runs, refused]
  have closed : ({ s with phase := s.phase.returns direction } : Session pg).step .relay =
      some { s with phase := .ended } := by
    cases direction <;> simp [Session.step, relayCloses, pumping, RelayPhase.returns]
  exact ⟨_, .cons direction.move_party pumped
    (.cons (show Move.party .relay = none from rfl) closed ⟨[], by simp, rfl⟩), .inl rfl⟩

/-- From the relay phase the proxy alone forwards every whole message it holds, each of which
shortens what it holds, or ends the relay on one pgproto3 refuses. -/
theorem Session.settles (s : Session pg) (pumping : s.phase = .pumping) :
    ∃ s', s.ProxyRuns s' ∧ s'.Settled := by
  have forward : ∀ (direction : Direction) (frame : Frame) (written rest : Bytes),
      receive (pg.reader direction) (s.unread direction) = .done (frame, written) rest →
      ∃ s', s.ProxyRuns s' ∧ s'.Settled := fun direction frame written rest read => by
    have shorter := receive_shortens read
    have pumped : s.step direction.move = some (s.forward direction frame.encode written rest) := by
      simp [Session.step_move, Session.pump, pumping, RelayPhase.runs, read]
    have ⟨s', runs, settled⟩ := Session.settles (s.forward direction frame.encode written rest)
      (by cases direction <;> exact pumping)
    exact ⟨s', .cons direction.move_party pumped runs, settled⟩
  cases fromClient : receive pg.backend s.fromClient with
  | done message rest => exact forward .clientToUpstream message.1 message.2 rest fromClient
  | fail => exact @Session.settles_of_refused _ _ .clientToUpstream pumping fromClient
  | wait =>
    cases fromUpstream : receive pg.frontend s.fromUpstream with
    | done message rest => exact forward .upstreamToClient message.1 message.2 rest fromUpstream
    | fail => exact @Session.settles_of_refused _ _ .upstreamToClient pumping fromUpstream
    | wait => exact ⟨s, ⟨[], by simp, rfl⟩, .inr ⟨pumping, fromClient, fromUpstream⟩⟩
termination_by s.fromClient.length + s.fromUpstream.length
decreasing_by
  cases direction <;> simp only [Session.unread] at shorter <;>
    simp only [Session.forward, Session.forwardToUpstream, Session.forwardToClient] <;> omega

end Pumps

/-- The relay phase, with a ReadyForQuery from the upstream still to be forwarded. -/
def readyForQueryHeld : Session Pgproto.roundTrip :=
  { Session.start .done .done with phase := .pumping, fromUpstream := readyForQuery.encode }

end SqlTap.Postgres
