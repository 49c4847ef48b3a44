/-
This file models one relayed session: a client, the proxy's `relay`, and the upstream server,
joined by two TCP connections, each a pair of byte streams. The two parties are arbitrary: each is
a `Peer`, a program that writes bytes and blocks on reads of a given size. The proxy is
`relayStartup`, then the two pumps `relayClientToUpstream` and `relayUpstreamToClient`, and
`relay` closing both connections once a pump has returned. A run takes a step of any party that
can move, in any order.

The proxy does not copy bytes: it decodes each message with pgproto3 and writes what the decoded
message encodes to. pgproto3 is not part of this repository, so a session is indexed by what the
relay uses of it (`Pgproto`); the sessions run here take the library as the relay's design does,
every message of a known type written back as read (`Pgproto.roundTrip`). A message the library
refuses ends the relay. When `relayStartup` fails, `relay` returns and `handleConn`'s deferred
calls close both connections; when a pump returns, the other may still forward messages until
`relay` closes both connections. A party's read on a closed connection returns what is left,
short of what it asked for.

Whatever the library and the parties, and in whatever order they move, the proxy loses, reorders
and invents no message: what it read from each side, message by message, followed by what it
has not read, is what that side wrote; what it wrote towards the other side is what it wrote
back for each of those messages; and when every message was written back as read, each side has
read a prefix of what the other wrote (`bytes_conserved`). It does not keep the session moving,
though. During startup `relayStartup` reads only the upstream, so an authentication exchange in
which the upstream waits for the client's answer, or the single byte with which the upstream
declines an SSLRequest, leaves all three parties blocked (`startup_deadlocks`), where the direct
session reaches ReadyForQuery.
-/

import Mathlib.Tactic.IntervalCases
import SqlTap.StartupPacket

namespace SqlTap.Postgres

/-! ### Parties -/

/-- A party of a session, as the bytes it writes and the reads it blocks on: `recv count next`
waits until `count` bytes are unread and takes them. -/
inductive Peer where
  | send (bytes : Bytes) (next : Peer)
  | recv (count : Nat) (next : Bytes → Peer)
  | done

/-- One step of a party against the unread bytes addressed to it, on a connection the proxy has
closed or not: what it becomes, what it writes, and how many bytes it reads; `none` while it is
blocked, or once it is done. On a closed connection a read returns what is left, short of what
it asked for, which is how the party sees the end of the stream. -/
def Peer.step : Peer → Bytes → Bool → Option (Peer × Bytes × Nat)
  | .send bytes next, _, _ => some (next, bytes, 0)
  | .recv count next, inbox, closed =>
    if count ≤ inbox.length then some (next (inbox.take count), [], count)
    else if closed then some (next inbox, [], inbox.length)
    else none
  | .done, _, _ => none

/-- Reads one tagged message: the five header bytes, then the body they announce. -/
def Peer.recvFrame (next : Frame → Peer) : Peer :=
  .recv 5 fun header =>
    match header with
    | [tag, b0, b1, b2, b3] => .recv (uint32 b0 b1 b2 b3 - 4) fun body => next ⟨tag, body⟩
    | _ => .done

/-! ### What the relay uses of pgproto3 -/

/-- The type bytes `Backend.Receive` knows: Bind, Close, Describe, Execute, CopyFail, CopyData,
CopyDone, FunctionCall, Flush, Parse, PasswordMessage, Query, Sync and Terminate. -/
def frontendTypes : Bytes := ascii "BCDEfdcFHPpQSX"

/-- The type bytes `Frontend.Receive` knows, from ParseComplete to ReadyForQuery. -/
def backendTypes : Bytes := ascii "123AcCdDEGHIKnNRsStTVWZ"

/-- A reader that knows the message types `types`, and for which every message of such a type
decodes and its `Encode` writes back the frame it was read from. -/
def Codec.roundTrip (types : Bytes) (tagFirst : Bool) : Codec :=
  ⟨fun tag => types.contains tag, tagFirst, fun frame => some frame.encode⟩

/-- What the relay uses of pgproto3: the `Backend` that reads the client, the `Frontend` that
reads the upstream, and the order in which `StartupMessage.Encode` ranges over its map. -/
structure Pgproto where
  backend : Codec
  frontend : Codec
  order : MapOrder

/-- pgproto3 as the relay's design takes it: each reader knows the message types of its side,
every message of a known type is written back as read, and the parameters of a StartupMessage
come out in the order they were read. -/
def Pgproto.roundTrip : Pgproto :=
  ⟨Codec.roundTrip frontendTypes true, Codec.roundTrip backendTypes false, MapOrder.asRead⟩

/-! ### The proxy -/

/-- Where the proxy's `relay` is. -/
inductive RelayPhase where
  /-- `relayStartup`, blocked in `c.client.ReceiveStartupMessage`. -/
  | startup
  /-- `relayStartup`'s loop, blocked in `c.upstream.Receive`. -/
  | auth
  /-- The two pumps, each blocked in `Receive` on its own connection. -/
  | pumping
  /-- A pump has returned and `relay` has not yet closed the connections; each flag tells
  whether that pump is still in its loop. -/
  | closing (clientToUpstream upstreamToClient : Bool)
  /-- `relay` has returned, and the proxy's ends of both connections are closed. -/
  | ended
  deriving DecidableEq, Repr

/-- One of the two pumps. -/
inductive Direction where
  | clientToUpstream
  | upstreamToClient
  deriving DecidableEq, Repr

/-- Whether a pump is in its loop. -/
def RelayPhase.runs : RelayPhase → Direction → Bool
  | .pumping, _ => true
  | .closing running _, .clientToUpstream => running
  | .closing _ running, .upstreamToClient => running
  | _, _ => false

/-- The phase once a pump has returned. -/
def RelayPhase.returns : RelayPhase → Direction → RelayPhase
  | .closing _ running, .clientToUpstream => .closing false running
  | .closing running _, .upstreamToClient => .closing running false
  | _, .clientToUpstream => .closing false true
  | _, .upstreamToClient => .closing true false

/-- A session through the proxy: the two parties, the proxy's phase, the four byte streams
(bytes written and not yet read), what each party wrote and read so far, and each message the
proxy read from each side, as the bytes it took and those it wrote back for it. -/
structure Session (pg : Pgproto) where
  client : Peer
  upstream : Peer
  phase : RelayPhase
  fromClient : Bytes
  toUpstream : Bytes
  fromUpstream : Bytes
  toClient : Bytes
  clientSent : Bytes
  clientReceived : Bytes
  upstreamSent : Bytes
  upstreamReceived : Bytes
  clientMessages : List (Bytes × Bytes)
  upstreamMessages : List (Bytes × Bytes)

/-- A session whose connections were just accepted and dialled. -/
def Session.opened (pg : Pgproto) (client upstream : Peer) : Session pg :=
  ⟨client, upstream, .startup, [], [], [], [], [], [], [], [], [], []⟩

/-- A session with pgproto3 as the relay's design takes it. -/
def Session.start (client upstream : Peer) : Session Pgproto.roundTrip :=
  Session.opened Pgproto.roundTrip client upstream

/-- Whose step it is. -/
inductive Move where
  | client | upstream | relayStartup | clientToUpstream | upstreamToClient
  /-- `relay` closing both connections once a pump has returned. -/
  | relay
  deriving DecidableEq, Repr

/-- The ReadyForQuery and ErrorResponse type bytes, `Z` and `E`. -/
def readyForQueryTag : UInt8 := 90

def errorResponseTag : UInt8 := 69

section Steps

variable {pg : Pgproto}

/-- Whether the proxy's ends of the connections are closed. -/
def Session.closed (s : Session pg) : Bool := s.phase == .ended

/-- The proxy has taken `read` off the front of what the client sent, leaving `rest`, and
written `written` towards the upstream. -/
def Session.forwardToUpstream (s : Session pg) (read written rest : Bytes) : Session pg :=
  { s with
    fromClient := rest
    toUpstream := s.toUpstream ++ written
    clientMessages := s.clientMessages ++ [(read, written)] }

/-- The proxy has taken `read` off the front of what the upstream sent, leaving `rest`, and
written `written` towards the client. -/
def Session.forwardToClient (s : Session pg) (read written rest : Bytes) : Session pg :=
  { s with
    fromUpstream := rest
    toClient := s.toClient ++ written
    upstreamMessages := s.upstreamMessages ++ [(read, written)] }

/-- `relayStartup`: the startup packet from the client is decoded and encoded to the upstream,
then each message from the upstream to the client until a ReadyForQuery, which starts the pumps,
or an ErrorResponse, which ends the relay once it is written. A message pgproto3 refuses ends
the relay. -/
def relayStartup (s : Session pg) : Option (Session pg) :=
  match s.phase with
  | .startup =>
    match receiveStartupMessage s.fromClient with
    | .done (packet, request) rest =>
      some { s.forwardToUpstream packet.encode (request.packet pg.order).encode rest with
        phase := .auth }
    | .fail => some { s with phase := .ended }
    | .wait => none
  | .auth =>
    match receive pg.frontend s.fromUpstream with
    | .done (frame, written) rest =>
      some { s.forwardToClient frame.encode written rest with
        phase :=
          if frame.tag = readyForQueryTag then .pumping
          else if frame.tag = errorResponseTag then .ended
          else .auth }
    | .fail => some { s with phase := .ended }
    | .wait => none
  | _ => none

/-- The reader a pump reads with. -/
def Pgproto.reader (pg : Pgproto) : Direction → Codec
  | .clientToUpstream => pg.backend
  | .upstreamToClient => pg.frontend

/-- What a pump has still to read. -/
def Session.unread (s : Session pg) : Direction → Bytes
  | .clientToUpstream => s.fromClient
  | .upstreamToClient => s.fromUpstream

/-- A pump forwarding one message. -/
def Session.forward (s : Session pg) : Direction → Bytes → Bytes → Bytes → Session pg
  | .clientToUpstream => s.forwardToUpstream
  | .upstreamToClient => s.forwardToClient

/-- One pass of a pump's loop: it reads a message and writes what the message encodes to; on a
message its reader refuses it returns. -/
def Session.pump (s : Session pg) (direction : Direction) : Option (Session pg) :=
  if s.phase.runs direction then
    match receive (pg.reader direction) (s.unread direction) with
    | .done (frame, written) rest => some (s.forward direction frame.encode written rest)
    | .fail => some { s with phase := s.phase.returns direction }
    | .wait => none
  else none

/-- `relayClientToUpstream`: each message from the client is forwarded to the upstream. -/
def relayClientToUpstream (s : Session pg) : Option (Session pg) := s.pump .clientToUpstream

/-- `relayUpstreamToClient`: each message from the upstream is forwarded to the client. -/
def relayUpstreamToClient (s : Session pg) : Option (Session pg) := s.pump .upstreamToClient

/-- `relay` once a pump has returned: it closes both connections; the other pump's read then
fails, and `relay` and `handleConn` return. -/
def relayCloses (s : Session pg) : Option (Session pg) :=
  match s.phase with
  | .closing _ _ => some { s with phase := .ended }
  | _ => none

/-- One step of a session; `none` when that party is blocked. -/
def Session.step (s : Session pg) : Move → Option (Session pg)
  | .client =>
    (s.client.step s.toClient s.closed).map fun (next, written, read) =>
      { s with
        client := next
        fromClient := s.fromClient ++ written
        toClient := s.toClient.drop read
        clientSent := s.clientSent ++ written
        clientReceived := s.clientReceived ++ s.toClient.take read }
  | .upstream =>
    (s.upstream.step s.toUpstream s.closed).map fun (next, written, read) =>
      { s with
        upstream := next
        fromUpstream := s.fromUpstream ++ written
        toUpstream := s.toUpstream.drop read
        upstreamSent := s.upstreamSent ++ written
        upstreamReceived := s.upstreamReceived ++ s.toUpstream.take read }
  | .relayStartup => relayStartup s
  | .clientToUpstream => relayClientToUpstream s
  | .upstreamToClient => relayUpstreamToClient s
  | .relay => relayCloses s

/-- The sessions a run from `initial` can reach. -/
inductive Session.Reachable (initial : Session pg) : Session pg → Prop where
  | refl : Session.Reachable initial initial
  | tail {s s' : Session pg} (move : Move) : Session.Reachable initial s →
      s.step move = some s' → Session.Reachable initial s'

/-- The steps of a run, in order, when each can be taken. -/
def Session.run (s : Session pg) : List Move → Option (Session pg)
  | [] => some s
  | move :: moves => (s.step move).bind fun next => next.run moves

/-- The state after the first `n` moves of a run, or the start if one of them cannot be taken. -/
def Session.trace (s : Session pg) (moves : List Move) (n : Nat) : Session pg :=
  (s.run (moves.take n)).getD s

theorem Session.reachable_run {initial s : Session pg} (reachable : Session.Reachable initial s) :
    ∀ {moves : List Move} {s' : Session pg}, s.run moves = some s' → Session.Reachable initial s'
  | [], _, ran => by cases ran; exact reachable
  | move :: moves, s', ran => by
    simp only [Session.run, Option.bind_eq_some] at ran
    obtain ⟨next, stepped, rest⟩ := ran
    exact Session.reachable_run (.tail move reachable stepped) rest

/-- No party can move. -/
def Session.Stuck (s : Session pg) : Prop := ∀ move, s.step move = none

theorem RelayPhase.runs_live {phase : RelayPhase} {direction : Direction}
    (runs : phase.runs direction = true) : phase ≠ .startup ∧ phase ≠ .ended := by
  cases phase <;> simp_all [RelayPhase.runs]

theorem RelayPhase.returns_ne (phase : RelayPhase) (direction : Direction) :
    phase.returns direction ≠ .startup ∧ phase.returns direction ≠ .ended := by
  cases phase <;> cases direction <;> simp [RelayPhase.returns]

/-- What a pump does: it forwards one message, or it returns. -/
theorem Session.pump_cases {s s' : Session pg} {direction : Direction}
    (stepped : s.pump direction = some s') :
    s.phase.runs direction = true ∧
      ((∃ frame written rest, receive (pg.reader direction) (s.unread direction) =
          .done (frame, written) rest ∧ s' = s.forward direction frame.encode written rest) ∨
        s' = { s with phase := s.phase.returns direction }) := by
  simp only [Session.pump] at stepped
  split at stepped
  · rename_i runs
    refine ⟨runs, ?_⟩
    split at stepped <;> cases stepped
    · exact .inl ⟨_, _, _, ‹_›, rfl⟩
    · exact .inr rfl
  · cases stepped

/-- What a step of the proxy does, said once: it only changes phase, never back to `startup`
and, from `startup` or `ended`, only to `ended`; or `relayStartup` forwards the startup packet,
decoded and encoded again; or it forwards a message from the client, a step of the pump from the
client; or a message from the upstream, after startup, moving to any phase but `startup`. -/
theorem Session.proxy_step_cases {s s' : Session pg} {move : Move}
    (proxy : move ≠ .client ∧ move ≠ .upstream) (stepped : s.step move = some s') :
    (∃ phase, s' = { s with phase := phase } ∧ phase ≠ .startup ∧
      (phase = .ended ∨ s.phase ≠ .startup ∧ s.phase ≠ .ended)) ∨
    (∃ packet request rest, s.phase = .startup ∧
      receiveStartupMessage s.fromClient = .done (packet, request) rest ∧
      s' = { s.forwardToUpstream packet.encode (request.packet pg.order).encode rest with
        phase := .auth }) ∨
    (∃ frame written rest, move = .clientToUpstream ∧ s.phase ≠ .startup ∧ s.phase ≠ .ended ∧
      receive pg.backend s.fromClient = .done (frame, written) rest ∧
      s' = s.forwardToUpstream frame.encode written rest) ∨
    (∃ frame written rest phase, s.phase ≠ .startup ∧ s.phase ≠ .ended ∧ phase ≠ .startup ∧
      receive pg.frontend s.fromUpstream = .done (frame, written) rest ∧
      s' = { s.forwardToClient frame.encode written rest with phase := phase }) := by
  have ended : s' = { s with phase := .ended } → ∃ phase, s' = { s with phase := phase } ∧
      phase ≠ .startup ∧ (phase = .ended ∨ s.phase ≠ .startup ∧ s.phase ≠ .ended) := fun closed =>
    ⟨.ended, closed, by decide, .inl rfl⟩
  cases move with
  | client => exact absurd rfl proxy.1
  | upstream => exact absurd rfl proxy.2
  | relayStartup =>
    simp only [Session.step, relayStartup] at stepped
    split at stepped
    · rename_i startup
      split at stepped <;> cases stepped
      · exact .inr (.inl ⟨_, _, _, startup, ‹_›, rfl⟩)
      · exact .inl (ended rfl)
    · rename_i auth
      split at stepped <;> cases stepped
      · refine .inr (.inr (.inr ⟨_, _, _, _, by simp [auth], by simp [auth], ?_, ‹_›, rfl⟩))
        split_ifs <;> decide
      · exact .inl (ended rfl)
    · cases stepped
  | clientToUpstream =>
    obtain ⟨runs, ⟨frame, written, rest, read, rfl⟩ | rfl⟩ := Session.pump_cases stepped
    · exact .inr (.inr (.inl ⟨frame, written, rest, rfl, (RelayPhase.runs_live runs).1,
        (RelayPhase.runs_live runs).2, read, rfl⟩))
    · exact .inl ⟨_, rfl, (s.phase.returns_ne _).1, .inr (RelayPhase.runs_live runs)⟩
  | upstreamToClient =>
    obtain ⟨runs, ⟨frame, written, rest, read, rfl⟩ | rfl⟩ := Session.pump_cases stepped
    · exact .inr (.inr (.inr ⟨frame, written, rest, s.phase, (RelayPhase.runs_live runs).1,
        (RelayPhase.runs_live runs).2, (RelayPhase.runs_live runs).1, read, rfl⟩))
    · exact .inl ⟨_, rfl, (s.phase.returns_ne _).1, .inr (RelayPhase.runs_live runs)⟩
  | relay =>
    simp only [Session.step, relayCloses] at stepped
    split at stepped <;> cases stepped
    exact .inl (ended rfl)

end Steps

/-! ### The proxy loses, reorders and invents no message -/

/-- The first message the proxy reads from the client, the startup packet, and what it writes
for it: what `Encode` writes for the packet decoded, its parameters in the order `order`. -/
def StartupReencodes (order : MapOrder) (entry : Bytes × Bytes) : Prop :=
  ∃ (packet : StartupPacket) (request : StartupRequest), decodeStartup packet.body = some request ∧
    entry.1 = packet.encode ∧ entry.2 = (request.packet order).encode

/-- What the proxy wrote for each message it read from the client: for the startup packet what
`StartupMessage.Encode` and its kind write, and for each later message what the `Backend`
writes. -/
def ClientLedger (pg : Pgproto) : List (Bytes × Bytes) → Prop
  | [] => True
  | packet :: frames => StartupReencodes pg.order packet ∧ ∀ entry ∈ frames, pg.backend.Reencodes entry

theorem ClientLedger.append {pg : Pgproto} {messages : List (Bytes × Bytes)}
    (ledger : ClientLedger pg messages) (started : messages ≠ []) {entry : Bytes × Bytes}
    (reencodes : pg.backend.Reencodes entry) : ClientLedger pg (messages ++ [entry]) := by
  obtain ⟨packet, frames⟩ | _ := messages
  · exact absurd rfl started
  · exact ⟨ledger.1, List.forall_mem_append.2 ⟨ledger.2, List.forall_mem_singleton.2 reencodes⟩⟩

section Conservation

variable {pg : Pgproto}

/-- On each side, what the proxy read, message by message, followed by what it has not read, is
what that side wrote; what the other side read, followed by what is in flight towards it, is
what the proxy wrote back for those messages; and each was written back by pgproto3's `Encode`.
The startup packet is the first message read from the client, and it is read before anything
else is. -/
structure Session.Conserves (s : Session pg) : Prop where
  readFromClient : (s.clientMessages.map Prod.fst).flatten ++ s.fromClient = s.clientSent
  writtenToUpstream : s.upstreamReceived ++ s.toUpstream = (s.clientMessages.map Prod.snd).flatten
  readFromUpstream : (s.upstreamMessages.map Prod.fst).flatten ++ s.fromUpstream = s.upstreamSent
  writtenToClient : s.clientReceived ++ s.toClient = (s.upstreamMessages.map Prod.snd).flatten
  clientLedger : ClientLedger pg s.clientMessages
  upstreamLedger : ∀ entry ∈ s.upstreamMessages, pg.frontend.Reencodes entry
  startupFirst : s.phase = .startup → s.clientMessages = []
  packetRead : s.phase ≠ .startup → s.phase ≠ .ended → s.clientMessages ≠ []

theorem Session.conserves_opened (client upstream : Peer) :
    (Session.opened pg client upstream).Conserves :=
  ⟨rfl, rfl, rfl, rfl, trivial, nofun, fun _ => rfl, fun started => absurd rfl started⟩

theorem conserves_step {s s' : Session pg} (conserves : s.Conserves) {move : Move}
    (stepped : s.step move = some s') : s'.Conserves := by
  obtain ⟨readFromClient, writtenToUpstream, readFromUpstream, writtenToClient, clientLedger,
    upstreamLedger, startupFirst, packetRead⟩ := conserves
  cases move with
  | client =>
    obtain ⟨⟨next, written, read⟩, -, rfl⟩ := Option.map_eq_some'.mp stepped
    refine ⟨?_, writtenToUpstream, readFromUpstream, ?_, clientLedger, upstreamLedger,
      startupFirst, packetRead⟩
    · show _ ++ (s.fromClient ++ written) = s.clientSent ++ written
      rw [← readFromClient, List.append_assoc]
    · show s.clientReceived ++ s.toClient.take read ++ s.toClient.drop read = _
      rw [List.append_assoc, List.take_append_drop, writtenToClient]
  | upstream =>
    obtain ⟨⟨next, written, read⟩, -, rfl⟩ := Option.map_eq_some'.mp stepped
    refine ⟨readFromClient, ?_, ?_, writtenToClient, clientLedger, upstreamLedger,
      startupFirst, packetRead⟩
    · show s.upstreamReceived ++ s.toUpstream.take read ++ s.toUpstream.drop read = _
      rw [List.append_assoc, List.take_append_drop, writtenToUpstream]
    · show _ ++ (s.fromUpstream ++ written) = s.upstreamSent ++ written
      rw [← readFromUpstream, List.append_assoc]
  | _ =>
    rcases Session.proxy_step_cases ⟨by decide, by decide⟩ stepped with
      ⟨phase, rfl, notStartup, ended⟩ | ⟨packet, request, rest, startup, read, rfl⟩ |
      ⟨frame, written, rest, -, notStartup, notEnded, read, rfl⟩ |
      ⟨frame, written, rest, phase, notStartup, notEnded, notStartup', read, rfl⟩
    · exact ⟨readFromClient, writtenToUpstream, readFromUpstream, writtenToClient, clientLedger,
        upstreamLedger, fun startup => absurd startup notStartup,
        fun _ notEnded => packetRead (ended.resolve_left notEnded).1 (ended.resolve_left notEnded).2⟩
    · obtain ⟨-, -, decoded, split⟩ := encode_of_receiveStartupMessage read
      refine ⟨?_, ?_, readFromUpstream, writtenToClient, ?_, upstreamLedger, nofun,
        fun _ _ => by simp [Session.forwardToUpstream]⟩
      · simp [Session.forwardToUpstream, ← readFromClient, split]
      · simp [Session.forwardToUpstream, ← writtenToUpstream]
      · simp only [Session.forwardToUpstream, startupFirst startup, List.nil_append]
        exact ⟨⟨packet, request, decoded, rfl, rfl⟩, nofun⟩
    · obtain ⟨reencodes, split⟩ := encode_of_receive read
      refine ⟨?_, ?_, readFromUpstream, writtenToClient,
        clientLedger.append (packetRead notStartup notEnded) reencodes, upstreamLedger,
        fun startup => absurd startup notStartup, fun _ _ => by simp [Session.forwardToUpstream]⟩
      · simp [Session.forwardToUpstream, ← readFromClient, split]
      · simp [Session.forwardToUpstream, ← writtenToUpstream]
    · obtain ⟨reencodes, split⟩ := encode_of_receive read
      refine ⟨readFromClient, writtenToUpstream, ?_, ?_, clientLedger,
        List.forall_mem_append.2 ⟨upstreamLedger, List.forall_mem_singleton.2 reencodes⟩,
        fun startup => absurd startup notStartup', fun _ _ => packetRead notStartup notEnded⟩
      · simp [Session.forwardToClient, ← readFromUpstream, split]
      · simp [Session.forwardToClient, ← writtenToClient]

/-- Whatever pgproto3 does to the messages, whatever the two parties do and in whatever order
the three move, the proxy loses, reorders and invents no message. On each side what the proxy
read, message by message, followed by what it has not read, is what that side wrote; what the
other side read, followed by what is in flight towards it, is what the proxy wrote back for those
messages, in order; the first message from the client is the startup packet, written back by
`StartupMessage.Encode` and its kind, and every other message is written back by the reader of
its side. When every message was written back as read, each side has read a prefix of what the
other wrote. -/
theorem bytes_conserved (pg : Pgproto) (client upstream : Peer) {s : Session pg}
    (reachable : Session.Reachable (Session.opened pg client upstream) s) :
    (s.clientMessages.map Prod.fst).flatten ++ s.fromClient = s.clientSent ∧
      s.upstreamReceived ++ s.toUpstream = (s.clientMessages.map Prod.snd).flatten ∧
      (s.upstreamMessages.map Prod.fst).flatten ++ s.fromUpstream = s.upstreamSent ∧
      s.clientReceived ++ s.toClient = (s.upstreamMessages.map Prod.snd).flatten ∧
      ClientLedger pg s.clientMessages ∧
      (∀ entry ∈ s.upstreamMessages, pg.frontend.Reencodes entry) ∧
      ((∀ entry ∈ s.clientMessages ++ s.upstreamMessages, entry.2 = entry.1) →
        s.upstreamReceived ++ s.toUpstream ++ s.fromClient = s.clientSent ∧
          s.clientReceived ++ s.toClient ++ s.fromUpstream = s.upstreamSent) := by
  have conserves : s.Conserves := by
    induction reachable with
    | refl => exact Session.conserves_opened client upstream
    | tail _ _ stepped inductionHypothesis => exact conserves_step inductionHypothesis stepped
  refine ⟨conserves.readFromClient, conserves.writtenToUpstream, conserves.readFromUpstream,
    conserves.writtenToClient, conserves.clientLedger, conserves.upstreamLedger, fun asRead => ?_⟩
  have sameBytes : ∀ messages : List (Bytes × Bytes), (∀ entry ∈ messages, entry.2 = entry.1) →
      messages.map Prod.snd = messages.map Prod.fst := fun _ same => List.map_congr_left same
  rw [conserves.writtenToUpstream, conserves.writtenToClient,
    sameBytes _ fun entry member => asRead entry (List.mem_append_left _ member),
    sameBytes _ fun entry member => asRead entry (List.mem_append_right _ member)]
  exact ⟨conserves.readFromClient, conserves.readFromUpstream⟩

end Conservation

/-! ### The proxy does not keep the session moving -/

section Deadlock

variable {pg : Pgproto}

/-- Once no party can move, a run stays where it is. -/
theorem Session.reachable_of_stuck {s s' : Session pg} (stuck : s.Stuck)
    (reachable : Session.Reachable s s') : s' = s := by
  induction reachable with
  | refl => rfl
  | tail move _ stepped inductionHypothesis =>
    subst inductionHypothesis
    simp [stuck move] at stepped

/-- When at each state of a run at most one move can be taken, and it leads to the next state,
the states of the run are the only ones reachable. -/
theorem Session.reachable_of_forced {s : Session pg} {moves : List Move}
    (forced : ∀ n ≤ moves.length, ∀ move, (s.trace moves n).step move = none ∨
      (n < moves.length ∧ (s.trace moves n).step move = some (s.trace moves (n + 1))))
    {s' : Session pg} (reachable : Session.Reachable s s') :
    ∃ n ≤ moves.length, s' = s.trace moves n := by
  induction reachable with
  | refl => exact ⟨0, Nat.zero_le _, rfl⟩
  | tail move _ stepped inductionHypothesis =>
    obtain ⟨n, bound, rfl⟩ := inductionHypothesis
    rcases forced n bound move with blocked | ⟨short, next⟩
    · simp [blocked] at stepped
    · obtain rfl := Option.some.inj (next.symm.trans stepped)
      exact ⟨n + 1, short, rfl⟩

/-- The deadlock: during authentication, when the upstream's next message is incomplete and both
parties wait for bytes from the proxy, nobody can move, whatever the client has written. -/
theorem Session.stuck_of_auth {s : Session pg} (auth : s.phase = .auth)
    (upstreamIncomplete : receive pg.frontend s.fromUpstream = .wait)
    (clientBlocked : s.client.step s.toClient false = none)
    (upstreamBlocked : s.upstream.step s.toUpstream false = none) : s.Stuck := by
  have notClosed : s.closed = false := by simp [Session.closed, auth]
  intro move
  cases move with
  | client => simp only [Session.step, notClosed, clientBlocked, Option.map_none']
  | upstream => simp only [Session.step, notClosed, upstreamBlocked, Option.map_none']
  | relayStartup => simp only [Session.step, relayStartup, auth, upstreamIncomplete]
  | clientToUpstream | upstreamToClient =>
    simp [Session.step, relayClientToUpstream, relayUpstreamToClient, Session.pump, auth,
      RelayPhase.runs]
  | relay => simp only [Session.step, relayCloses, auth]

end Deadlock

/-- A session without the proxy: each party reads what the other wrote. -/
structure Direct where
  client : Peer
  upstream : Peer
  toUpstream : Bytes
  toClient : Bytes
  clientReceived : Bytes

def Direct.start (client upstream : Peer) : Direct := ⟨client, upstream, [], [], []⟩

/-- One step of the client (`true`) or of the upstream (`false`) of a direct session. -/
def Direct.step (d : Direct) : Bool → Option Direct
  | true =>
    (d.client.step d.toClient false).map fun (next, written, read) =>
      { d with
        client := next
        toUpstream := d.toUpstream ++ written
        toClient := d.toClient.drop read
        clientReceived := d.clientReceived ++ d.toClient.take read }
  | false =>
    (d.upstream.step d.toUpstream false).map fun (next, written, read) =>
      { d with
        upstream := next
        toClient := d.toClient ++ written
        toUpstream := d.toUpstream.drop read }

def Direct.run (d : Direct) : List Bool → Option Direct
  | [] => some d
  | clientMoves :: moves => (d.step clientMoves).bind fun next => next.run moves

/-- Reads a startup packet: the four length bytes, then the rest of the packet they announce. -/
def Peer.recvStartup (next : StartupPacket → Peer) : Peer :=
  .recv 4 fun header =>
    match header with
    | [b0, b1, b2, b3] => .recv (uint32 b0 b1 b2 b3 - 4) fun body => next ⟨body⟩
    | _ => .done

/-- Reads two messages, AuthenticationOk and ReadyForQuery, and is done. -/
def Peer.recvUntilReady : Peer := Peer.recvFrame fun _ => Peer.recvFrame fun _ => .done

/-- A protocol 3.0 startup packet for user `u`. -/
def startupPacket : StartupPacket := ⟨putUint32 196608 ++ ascii "user" ++ [0] ++ ascii "u" ++ [0, 0]⟩

/-- An SSLRequest. -/
def sslRequest : StartupPacket := ⟨putUint32 80877103⟩

def authenticationCleartextPassword : Frame := ⟨82, putUint32 3⟩

def passwordMessage : Frame := ⟨112, ascii "pw" ++ [0]⟩

def authenticationOk : Frame := ⟨82, putUint32 0⟩

def readyForQuery : Frame := ⟨readyForQueryTag, [73]⟩

/-- A client that sends its startup packet, answers AuthenticationCleartextPassword with its
password, and reads until ReadyForQuery. -/
def passwordClient : Peer :=
  .send startupPacket.encode <| Peer.recvFrame fun request =>
    if request = authenticationCleartextPassword then .send passwordMessage.encode Peer.recvUntilReady
    else .done

/-- An upstream that asks for a cleartext password and, once it has it, admits the client. -/
def passwordServer : Peer :=
  Peer.recvStartup fun _ => .send authenticationCleartextPassword.encode <| Peer.recvFrame fun answer =>
    if answer.tag = passwordMessage.tag then
      .send (authenticationOk.encode ++ readyForQuery.encode) .done
    else .done

/-- A client that asks for SSL first and, declined with `N`, continues in plaintext. -/
def sslClient : Peer :=
  .send sslRequest.encode <| .recv 1 fun answer =>
    if answer = [78] then .send startupPacket.encode Peer.recvUntilReady else .done

/-- An upstream that declines SSL with the single byte `N` and admits the client without a
password. -/
def sslDecliningServer : Peer :=
  Peer.recvStartup fun packet =>
    if decodeStartup packet.body = some .sslRequest then
      .send [78] <| Peer.recvStartup fun _ =>
        .send (authenticationOk.encode ++ readyForQuery.encode) .done
    else .done

/-- A run of the password session through the proxy. -/
def passwordMoves : List Move :=
  [.client, .relayStartup, .upstream, .upstream, .upstream, .relayStartup, .client, .client, .client]

/-- Where the password session through the proxy gets to. -/
def passwordProxied : Session Pgproto.roundTrip :=
  ((Session.start passwordClient passwordServer).run passwordMoves).getD
    (Session.start passwordClient passwordServer)

def sslMoves : List Move := [.client, .relayStartup, .upstream, .upstream, .upstream]

def sslProxied : Session Pgproto.roundTrip :=
  ((Session.start sslClient sslDecliningServer).run sslMoves).getD
    (Session.start sslClient sslDecliningServer)

/-- At each state of the password session through the proxy one party at most can move. -/
theorem passwordMoves_forced (n : Nat) (bound : n ≤ passwordMoves.length) (move : Move) :
    ((Session.start passwordClient passwordServer).trace passwordMoves n).step move = none ∨
      (n < passwordMoves.length ∧
        ((Session.start passwordClient passwordServer).trace passwordMoves n).step move =
          some ((Session.start passwordClient passwordServer).trace passwordMoves (n + 1))) := by
  simp only [passwordMoves, List.length_cons, List.length_nil] at bound
  interval_cases n <;> cases move <;> first | exact .inl rfl | exact .inr ⟨by decide, rfl⟩

theorem sslMoves_forced (n : Nat) (bound : n ≤ sslMoves.length) (move : Move) :
    ((Session.start sslClient sslDecliningServer).trace sslMoves n).step move = none ∨
      (n < sslMoves.length ∧
        ((Session.start sslClient sslDecliningServer).trace sslMoves n).step move =
          some ((Session.start sslClient sslDecliningServer).trace sslMoves (n + 1))) := by
  simp only [sslMoves, List.length_cons, List.length_nil] at bound
  interval_cases n <;> cases move <;> first | exact .inl rfl | exact .inr ⟨by decide, rfl⟩

/-- The password session through the proxy loses no message, for all that it stops. -/
theorem bytes_conserved_password :
    (passwordProxied.clientMessages.map Prod.fst).flatten ++ passwordProxied.fromClient =
        passwordProxied.clientSent ∧
      passwordProxied.upstreamReceived ++ passwordProxied.toUpstream =
        (passwordProxied.clientMessages.map Prod.snd).flatten ∧
      (passwordProxied.upstreamMessages.map Prod.fst).flatten ++ passwordProxied.fromUpstream =
        passwordProxied.upstreamSent ∧
      passwordProxied.clientReceived ++ passwordProxied.toClient =
        (passwordProxied.upstreamMessages.map Prod.snd).flatten ∧
      ClientLedger Pgproto.roundTrip passwordProxied.clientMessages ∧
      (∀ entry ∈ passwordProxied.upstreamMessages, Pgproto.roundTrip.frontend.Reencodes entry) ∧
      ((∀ entry ∈ passwordProxied.clientMessages ++ passwordProxied.upstreamMessages,
          entry.2 = entry.1) →
        passwordProxied.upstreamReceived ++ passwordProxied.toUpstream ++
            passwordProxied.fromClient = passwordProxied.clientSent ∧
          passwordProxied.clientReceived ++ passwordProxied.toClient ++
            passwordProxied.fromUpstream = passwordProxied.upstreamSent) :=
  bytes_conserved Pgproto.roundTrip passwordClient passwordServer
    (@Session.reachable_run _ _ _ .refl passwordMoves _ rfl)

/-- Run directly, a client that authenticates with a password reads the request, AuthenticationOk
and ReadyForQuery, and a client whose SSLRequest is declined reads `N`, AuthenticationOk and
ReadyForQuery. Through the proxy neither session reaches the relay phase in any order of steps;
both reach a state from which no party ever moves again: in the first the client's password sits in the
proxy's unread input from the client while `relayStartup` waits for the upstream, which waits for
the password; in the second the `N` sits in the proxy's unread input from the upstream, where
`relayStartup` waits for a whole message header. -/
theorem startup_deadlocks :
    ((Direct.start passwordClient passwordServer).run
        [true, false, false, false, true, true, true, false, false, false, true, true, true, true]).map
        Direct.clientReceived =
      some (authenticationCleartextPassword.encode ++ authenticationOk.encode ++ readyForQuery.encode) ∧
    (∀ s, Session.Reachable (Session.start passwordClient passwordServer) s → s.phase ≠ .pumping) ∧
    Session.Reachable (Session.start passwordClient passwordServer) passwordProxied ∧
    (∀ s, Session.Reachable passwordProxied s → s = passwordProxied) ∧
    passwordProxied.phase = .auth ∧ passwordProxied.fromClient = passwordMessage.encode ∧
    passwordProxied.clientReceived = authenticationCleartextPassword.encode ∧
    ((Direct.start sslClient sslDecliningServer).run
        [true, false, false, false, true, true, false, false, false, true, true, true, true]).map
        Direct.clientReceived =
      some ([78] ++ authenticationOk.encode ++ readyForQuery.encode) ∧
    (∀ s, Session.Reachable (Session.start sslClient sslDecliningServer) s → s.phase ≠ .pumping) ∧
    Session.Reachable (Session.start sslClient sslDecliningServer) sslProxied ∧
    (∀ s, Session.Reachable sslProxied s → s = sslProxied) ∧
    sslProxied.phase = .auth ∧ sslProxied.fromUpstream = [78] ∧ sslProxied.clientReceived = [] := by
  have passwordStuck : passwordProxied.Stuck :=
    Session.stuck_of_auth (by decide) (by decide) rfl rfl
  have sslStuck : sslProxied.Stuck :=
    Session.stuck_of_auth (by decide) (by decide) rfl rfl
  have passwordNeverRelays :
      ∀ s, Session.Reachable (Session.start passwordClient passwordServer) s → s.phase ≠ .pumping := by
    intro s reachable
    obtain ⟨n, bound, rfl⟩ := Session.reachable_of_forced passwordMoves_forced reachable
    simp only [passwordMoves, List.length_cons, List.length_nil] at bound
    interval_cases n <;> decide
  have sslNeverRelays :
      ∀ s, Session.Reachable (Session.start sslClient sslDecliningServer) s → s.phase ≠ .pumping := by
    intro s reachable
    obtain ⟨n, bound, rfl⟩ := Session.reachable_of_forced sslMoves_forced reachable
    simp only [sslMoves, List.length_cons, List.length_nil] at bound
    interval_cases n <;> decide
  exact ⟨by decide, passwordNeverRelays, @Session.reachable_run _ _ _ .refl passwordMoves _ rfl,
    fun _ => Session.reachable_of_stuck passwordStuck, by decide, by decide, by decide, by decide,
    sslNeverRelays, @Session.reachable_run _ _ _ .refl sslMoves _ rfl,
    fun _ => Session.reachable_of_stuck sslStuck, by decide, by decide, by decide⟩

end SqlTap.Postgres
