/-
This file joins the byte-level session of `Relay` with the capture of `Conn`. The pump from the
client hands each message it reads to `captureClientMsg` before writing it on, and the pump from
the upstream hands each message to `captureUpstreamMsg`. What the capture sees of a message is
what pgproto3 decoded it to; the decoders stay parameters here, as pgproto3 does in `Relay`.

A capturing session is a session of `Relay` with the capture beside it, and each of its steps is
a step of that session (`step_session`), so what `Relay` proves of sessions holds of it. Over
every run the capture sees exactly the client's messages after the startup packet, in order and
once each; the connection's state is the capture of these messages, and the events it emits are
`eventsOf` them (`capture_sees_client_messages`).
-/

import SqlTap.Relay
import SqlTap.Conn

namespace SqlTap.Postgres

/-- A relayed session with the capture of its connection: the connection's state and, beside
what the program keeps, the frames the pump from the client read, the messages it captured with
the value `uuid.New()` gave each capture, and the events it emitted. -/
structure Capture (pg : Pgproto) where
  session : Session pg
  conn : Conn
  frames : List Frame
  decoded : List (Bytes × FrontendMessage)
  emitted : List (Bytes × Event)

/-- A capturing session with pgproto3 as the relay's design takes it. -/
def Capture.start (client upstream : Peer) : Capture Pgproto.roundTrip :=
  ⟨Session.start client upstream, newConn, [], [], []⟩

section Decoders

variable {pg : Pgproto} (decodeFrontend : Frame → FrontendMessage)
  (decodeBackend : Frame → BackendMessage)

/-- `relayClientToUpstream` with its capture: each message read is captured, then written. -/
def Capture.clientToUpstream (uuid : Bytes) (c : Capture pg) : Option (Capture pg) :=
  if c.session.phase.runs .clientToUpstream then
    match receive pg.backend c.session.fromClient with
    | .done (frame, written) rest =>
      let captured := captureClientMsg uuid (decodeFrontend frame) c.conn
      some
        { session := c.session.forwardToUpstream frame.encode written rest
          conn := captured.1
          frames := c.frames ++ [frame]
          decoded := c.decoded ++ [(uuid, decodeFrontend frame)]
          emitted := c.emitted ++ (captured.2.map (uuid, ·)).toList }
    | .fail =>
      some { c with session := { c.session with phase := c.session.phase.returns .clientToUpstream } }
    | .wait => none
  else none

/-- `relayUpstreamToClient` with its capture. -/
def Capture.upstreamToClient (c : Capture pg) : Option (Capture pg) :=
  if c.session.phase.runs .upstreamToClient then
    match receive pg.frontend c.session.fromUpstream with
    | .done (frame, written) rest =>
      some { c with
        session := c.session.forwardToClient frame.encode written rest
        conn := captureUpstreamMsg (decodeBackend frame) c.conn }
    | .fail =>
      some { c with session := { c.session with phase := c.session.phase.returns .upstreamToClient } }
    | .wait => none
  else none

/-- One step of a capturing session; `uuid` is what `uuid.New()` returns if the step calls it. -/
def Capture.step (c : Capture pg) (move : Move) (uuid : Bytes) : Option (Capture pg) :=
  match move with
  | .clientToUpstream => c.clientToUpstream decodeFrontend uuid
  | .upstreamToClient => c.upstreamToClient decodeBackend
  | _ => (c.session.step move).map fun session => { c with session := session }

/-- The capturing sessions a run from `initial` can reach. -/
inductive Capture.Reachable (initial : Capture pg) : Capture pg → Prop where
  | refl : Capture.Reachable initial initial
  | tail {c c' : Capture pg} (move : Move) (uuid : Bytes) : Capture.Reachable initial c →
      c.step decodeFrontend decodeBackend move uuid = some c' → Capture.Reachable initial c'

/-- The steps of a run, in order, each with the value `uuid.New()` would return. -/
def Capture.run (c : Capture pg) : List (Move × Bytes) → Option (Capture pg)
  | [] => some c
  | (move, uuid) :: steps =>
    (c.step decodeFrontend decodeBackend move uuid).bind fun next => next.run steps

theorem Capture.reachable_run {initial c : Capture pg}
    (reachable : Capture.Reachable decodeFrontend decodeBackend initial c) :
    ∀ {steps : List (Move × Bytes)} {c' : Capture pg},
      c.run decodeFrontend decodeBackend steps = some c' →
      Capture.Reachable decodeFrontend decodeBackend initial c'
  | [], _, ran => by cases ran; exact reachable
  | (move, uuid) :: steps, _, ran => by
    obtain ⟨next, stepped, rest⟩ := Option.bind_eq_some.mp ran
    exact Capture.reachable_run (.tail move uuid reachable stepped) rest

/-- The simulation: the capture changes nothing the session does. -/
theorem Capture.step_session (c : Capture pg) (move : Move) (uuid : Bytes) :
    (c.step decodeFrontend decodeBackend move uuid).map Capture.session = c.session.step move := by
  cases move with
  | clientToUpstream =>
    simp only [Capture.step, Capture.clientToUpstream, Session.step, relayClientToUpstream,
      Session.pump, Pgproto.reader, Session.unread, Session.forward]
    split
    · cases receive pg.backend c.session.fromClient <;> rfl
    · rfl
  | upstreamToClient =>
    simp only [Capture.step, Capture.upstreamToClient, Session.step, relayUpstreamToClient,
      Session.pump, Pgproto.reader, Session.unread, Session.forward]
    split
    · cases receive pg.frontend c.session.fromUpstream <;> rfl
    · rfl
  | _ =>
    simp only [Capture.step]
    cases c.session.step _ <;> rfl

theorem Capture.session_reachable {initial c : Capture pg}
    (reachable : Capture.Reachable decodeFrontend decodeBackend initial c) :
    Session.Reachable initial.session c.session := by
  induction reachable with
  | refl => exact .refl
  | @tail c c' move uuid _ stepped inductionHypothesis =>
    have projected := Capture.step_session decodeFrontend decodeBackend c move uuid
    rw [stepped, Option.map_some'] at projected
    exact .tail move inductionHypothesis projected.symm

/-! ### What the capture sees -/

/-- The bytes the client wrote, given the frames the pump from the client has read: none of them
read while the startup packet is not, and after it the startup packet, those frames, and what is
not read yet. -/
def Session.Consumed (frames : List Frame) (s : Session pg) : Prop :=
  (frames = [] ∧ s.fromClient = s.clientSent ∧ (s.phase = .startup ∨ s.phase = .ended)) ∨
    (s.phase ≠ .startup ∧ ∃ packet : StartupPacket,
      s.clientSent = packet.encode ++ (frames.map Frame.encode).flatten ++ s.fromClient)

/-- A step that reads nothing of the client's bytes, and moves the proxy on only as its phases
do, keeps what was consumed. -/
theorem Session.Consumed.keep {frames : List Frame} {s s' : Session pg}
    (consumed : s.Consumed frames) (fromClient : s'.fromClient = s.fromClient)
    (clientSent : s'.clientSent = s.clientSent)
    (phase : s'.phase = s.phase ∨ s'.phase ≠ .startup ∧
      (s'.phase = .ended ∨ s.phase ≠ .startup ∧ s.phase ≠ .ended)) :
    s'.Consumed frames := by
  rw [Session.Consumed, fromClient, clientSent]
  rcases consumed with ⟨none, unread, early⟩ | ⟨started, packet, split⟩
  · rcases phase with same | ⟨-, ended | live⟩
    · exact .inl ⟨none, unread, same ▸ early⟩
    · exact .inl ⟨none, unread, .inr ended⟩
    · exact early.elim (absurd · live.1) (absurd · live.2)
  · rcases phase with same | ⟨notStartup, -⟩
    · exact .inr ⟨same ▸ started, packet, split⟩
    · exact .inr ⟨notStartup, packet, split⟩

/-- The client writing more keeps what was consumed. -/
theorem Session.Consumed.write {frames : List Frame} {s s' : Session pg}
    (consumed : s.Consumed frames) (written : Bytes)
    (fromClient : s'.fromClient = s.fromClient ++ written)
    (clientSent : s'.clientSent = s.clientSent ++ written) (phase : s'.phase = s.phase) :
    s'.Consumed frames := by
  rw [Session.Consumed, fromClient, clientSent, phase]
  rcases consumed with ⟨none, unread, early⟩ | ⟨started, packet, split⟩
  · exact .inl ⟨none, by rw [unread], early⟩
  · exact .inr ⟨started, packet, by rw [split, List.append_assoc]⟩

/-- Reading the startup packet moves it from the unread bytes to the consumed ones. -/
theorem Session.Consumed.startup {frames : List Frame} {s : Session pg}
    (consumed : s.Consumed frames) (startup : s.phase = .startup) {packet : StartupPacket}
    {written rest : Bytes} (split : s.fromClient = packet.encode ++ rest) :
    ({ s.forwardToUpstream packet.encode written rest with phase := .auth } : Session pg).Consumed
      frames := by
  rcases consumed with ⟨rfl, unread, -⟩ | ⟨started, -⟩
  · exact .inr ⟨nofun, packet, by simp [Session.forwardToUpstream, ← unread, split]⟩
  · exact absurd startup started

/-- The pump from the client reading a frame moves it from the unread bytes to the consumed
ones. -/
theorem Session.Consumed.frame {frames : List Frame} {s : Session pg}
    (consumed : s.Consumed frames) (live : s.phase ≠ .startup ∧ s.phase ≠ .ended)
    {frame : Frame} {written rest : Bytes} (split : s.fromClient = frame.encode ++ rest) :
    (s.forwardToUpstream frame.encode written rest).Consumed (frames ++ [frame]) := by
  rcases consumed with ⟨-, -, startup | ended⟩ | ⟨started, packet, consumedBefore⟩
  · exact absurd startup live.1
  · exact absurd ended live.2
  · exact .inr ⟨started, packet, by simp [Session.forwardToUpstream, consumedBefore, split]⟩

/-- Every step but one of the pump from the client keeps what was consumed. -/
theorem Session.Consumed.step {frames : List Frame} {s s' : Session pg}
    (consumed : s.Consumed frames) {move : Move} (notPump : move ≠ .clientToUpstream)
    (stepped : s.step move = some s') : s'.Consumed frames := by
  cases move with
  | client =>
    obtain ⟨⟨next, written, read⟩, -, rfl⟩ := Option.map_eq_some'.mp stepped
    exact consumed.write written rfl rfl rfl
  | upstream =>
    obtain ⟨⟨next, written, read⟩, -, rfl⟩ := Option.map_eq_some'.mp stepped
    exact consumed.keep rfl rfl (.inl rfl)
  | _ =>
    rcases Session.proxy_step_cases ⟨by decide, by decide⟩ stepped with
      ⟨phase, rfl, notStartup, ends⟩ | ⟨packet, request, rest, startup, read, rfl⟩ |
      ⟨_, _, _, pump, -⟩ | ⟨_, _, _, phase, notStartup, notEnded, notStartup', -, rfl⟩
    · exact consumed.keep rfl rfl (.inr ⟨notStartup, ends⟩)
    · exact consumed.startup startup (encode_of_receiveStartupMessage read).2.2.2
    · exact absurd pump notPump
    · exact consumed.keep rfl rfl (.inr ⟨notStartup', .inr ⟨notStartup, notEnded⟩⟩)

/-- What a capturing session keeps of its client's messages. -/
structure Capture.Faithful (c : Capture pg) : Prop where
  decoded : c.decoded.map Prod.snd = c.frames.map decodeFrontend
  conn : c.conn = Conn.after c.decoded
  emitted : c.emitted = eventsOf c.decoded
  consumed : c.session.Consumed c.frames

theorem Capture.faithful_start (client upstream : Peer) :
    (Capture.start client upstream).Faithful decodeFrontend :=
  ⟨rfl, rfl, rfl, .inl ⟨rfl, rfl, .inl rfl⟩⟩

/-- A step that leaves the capture alone and keeps what was consumed. -/
theorem Capture.Faithful.withSession {c : Capture pg} (faithful : c.Faithful decodeFrontend)
    {session : Session pg} (consumed : session.Consumed c.frames) :
    ({ c with session := session } : Capture pg).Faithful decodeFrontend :=
  ⟨faithful.decoded, faithful.conn, faithful.emitted, consumed⟩

/-- The step lemma: every step of a capturing session keeps it faithful. -/
theorem Capture.faithful_step {c c' : Capture pg} (faithful : c.Faithful decodeFrontend)
    {move : Move} {uuid : Bytes}
    (stepped : c.step decodeFrontend decodeBackend move uuid = some c') :
    c'.Faithful decodeFrontend := by
  have consumed := faithful.consumed
  have returns : ∀ direction : Direction, c.session.phase.runs direction = true →
      ({ c with session := { c.session with phase := c.session.phase.returns direction } } :
        Capture pg).Faithful decodeFrontend := fun direction runs =>
    faithful.withSession decodeFrontend (consumed.keep rfl rfl
      (.inr ⟨(c.session.phase.returns_ne direction).1, .inr (RelayPhase.runs_live runs)⟩))
  cases move with
  | clientToUpstream =>
    simp only [Capture.step, Capture.clientToUpstream] at stepped
    split at stepped
    · rename_i runs
      split at stepped <;> cases stepped
      · rename_i frame written rest read
        refine ⟨?_, ?_, ?_,
          consumed.frame (RelayPhase.runs_live runs) (encode_of_receive read).2⟩
        · simp [faithful.decoded]
        · simp [faithful.conn]
        · simp [faithful.emitted, faithful.conn]
      · exact returns _ runs
    · cases stepped
  | upstreamToClient =>
    simp only [Capture.step, Capture.upstreamToClient] at stepped
    split at stepped
    · rename_i runs
      split at stepped <;> cases stepped
      · refine ⟨faithful.decoded, ?_, faithful.emitted, consumed.keep rfl rfl (.inl rfl)⟩
        rw [captureUpstreamMsg_eq]
        exact faithful.conn
      · exact returns _ runs
    · cases stepped
  | _ =>
    obtain ⟨session, sessionStepped, rfl⟩ := Option.map_eq_some'.mp stepped
    exact faithful.withSession decodeFrontend (consumed.step (by decide) sessionStepped)

/-- Over every run of a relayed session with its capture, the capture sees exactly the client's
messages after the startup packet, in order and each once: the client's bytes are the startup
packet, the frames the pump from the client read, and what it has not read; the messages
captured are those frames decoded; the connection's state is the capture of those messages and
the events emitted are `eventsOf` them, in order. The bytes behave as in the session without
the capture. -/
theorem capture_sees_client_messages (client upstream : Peer) {c : Capture Pgproto.roundTrip}
    (reachable : Capture.Reachable decodeFrontend decodeBackend (Capture.start client upstream) c) :
    Session.Reachable (Session.start client upstream) c.session ∧
      c.decoded.map Prod.snd = c.frames.map decodeFrontend ∧
      c.conn = Conn.after c.decoded ∧ c.emitted = eventsOf c.decoded ∧
      (c.frames = [] ∨ ∃ packet : StartupPacket,
        c.session.clientSent =
          packet.encode ++ (c.frames.map Frame.encode).flatten ++ c.session.fromClient) := by
  have faithful : c.Faithful decodeFrontend := by
    induction reachable with
    | refl => exact Capture.faithful_start decodeFrontend client upstream
    | tail _ _ _ stepped inductionHypothesis =>
      exact Capture.faithful_step decodeFrontend decodeBackend inductionHypothesis stepped
  refine ⟨Capture.session_reachable decodeFrontend decodeBackend reachable, faithful.decoded,
    faithful.conn, faithful.emitted, ?_⟩
  rcases faithful.consumed with ⟨none, -⟩ | ⟨-, packet, split⟩
  · exact .inl none
  · exact .inr ⟨packet, split⟩

end Decoders

/-- pgproto3's decoding of a Query, whose body is its text and a zero byte; other messages are
left undecoded. -/
def decodeQuery (frame : Frame) : FrontendMessage :=
  if frame.tag = 81 then .query frame.body.dropLast else .other

/-- A Query of `BEGIN`. -/
def beginQuery : Frame := ⟨81, ascii "BEGIN" ++ [0]⟩

/-- A client that logs in without a password and sends `BEGIN`. -/
def beginClient : Peer :=
  .send startupPacket.encode <| Peer.recvFrame fun _ => Peer.recvFrame fun _ =>
    .send beginQuery.encode .done

/-- An upstream that admits every client without a password. -/
def trustServer : Peer :=
  Peer.recvStartup fun _ => .send (authenticationOk.encode ++ readyForQuery.encode) .done

/-- Startup, authentication, and the capture of `BEGIN`. -/
def beginMoves : List (Move × Bytes) :=
  [(.client, []), (.relayStartup, []), (.upstream, []), (.upstream, []), (.upstream, []),
    (.relayStartup, []), (.relayStartup, []), (.client, []), (.client, []), (.client, []),
    (.client, []), (.client, []), (.clientToUpstream, ascii "tx")]

def beginCaptured : Capture Pgproto.roundTrip :=
  ((Capture.start beginClient trustServer).run decodeQuery (fun _ => .other) beginMoves).getD
    (Capture.start beginClient trustServer)

/-- The session that sends `BEGIN` through the proxy, captured. -/
theorem capture_sees_client_messages_begin :
    Session.Reachable (Session.start beginClient trustServer) beginCaptured.session ∧
      beginCaptured.decoded.map Prod.snd = beginCaptured.frames.map decodeQuery ∧
      beginCaptured.conn = Conn.after beginCaptured.decoded ∧
      beginCaptured.emitted = eventsOf beginCaptured.decoded ∧
      (beginCaptured.frames = [] ∨ ∃ packet : StartupPacket,
        beginCaptured.session.clientSent =
          packet.encode ++ (beginCaptured.frames.map Frame.encode).flatten ++
            beginCaptured.session.fromClient) :=
  capture_sees_client_messages decodeQuery (fun _ => .other) beginClient trustServer
    (@Capture.reachable_run _ decodeQuery (fun _ => .other) _ _ .refl beginMoves _ rfl)

end SqlTap.Postgres
