/-
This file proves the other side of the startup deadlock: `relayStartup` gets a session through
startup whenever the upstream's authentication needs nothing more from the client. The client is
any program whose first writes, in any chunks, are a startup packet pgproto3 decodes. The
upstream is any program that reads a startup packet, its length and then its body, and answers
with a run of messages ending in ReadyForQuery, none of them an ErrorResponse, each of a type the
`Frontend` knows and with a body it decodes, written in any chunks and without reading anything
more: a server that trusts the client, for one.

For every such session, whatever pgproto3 writes back, and in every order of steps, no state
before the relay phase is a deadlock: some party can always move (`startup_never_stalls`). Once
the client has written its startup packet, the proxy and the upstream reach the relay phase by
themselves, whatever the client does meanwhile (`startup_completes`).

Both rest on an invariant of the reachable states that names, stage by stage, where the startup
packet and the answer are (`Session.StartsUp`). While the client writes the packet, the proxy's
read blocks on what it has. The proxy then forwards the packet as pgproto3 writes it back, and
the upstream reads its length and its body and answers. While `relayStartup` reads the answer,
what it has still to read, followed by what the upstream has still to write, is the rest of the
answer from a message boundary on, followed by whatever the upstream wrote after it; each read
takes a whole message, and the last of them, the ReadyForQuery, starts the pumps.
-/

import SqlTap.Relay

namespace SqlTap.Postgres

/-! ### Parties that write in chunks -/

/-- A party that writes `bytes`, in any chunks and doing nothing in between, and then goes on as
`after`. -/
inductive Peer.Writes : Bytes → Peer → Peer → Prop where
  | nil (peer : Peer) : Peer.Writes [] peer peer
  | send (chunk : Bytes) {bytes : Bytes} {next after : Peer} :
      Peer.Writes bytes next after → Peer.Writes (chunk ++ bytes) (.send chunk next) after

/-- A party that writes the chunks one after the other, then goes on as `next`. -/
def Peer.sendChunks : List Bytes → Peer → Peer
  | [], next => next
  | chunk :: chunks, next => .send chunk (Peer.sendChunks chunks next)

theorem Peer.writes_sendChunks (chunks : List Bytes) (next : Peer) :
    Peer.Writes chunks.flatten (Peer.sendChunks chunks next) next := by
  induction chunks with
  | nil => exact .nil next
  | cons chunk chunks inductionHypothesis => exact .send chunk inductionHypothesis

/-- A step of a party in the middle of its writes writes its next chunk; a party that has
written everything is the party it goes on as. -/
theorem Peer.Writes.step {bytes : Bytes} {peer after next : Peer} {inbox written : Bytes}
    {closed : Bool} {read : Nat} (writes : Peer.Writes bytes peer after)
    (stepped : peer.step inbox closed = some (next, written, read)) :
    (∃ rest, bytes = written ++ rest ∧ read = 0 ∧ Peer.Writes rest next after) ∨
      (bytes = [] ∧ peer = after) := by
  cases writes with
  | nil => exact .inr ⟨rfl, rfl⟩
  | send chunk rest =>
    simp only [Peer.step, Option.some.injEq, Prod.mk.injEq] at stepped
    obtain ⟨rfl, rfl, rfl⟩ := stepped
    exact .inl ⟨_, rfl, rfl, rest⟩

/-- A party with something left to write can write it. -/
theorem Peer.Writes.moves {bytes : Bytes} {peer after : Peer} (writes : Peer.Writes bytes peer after)
    (pending : bytes ≠ []) (inbox : Bytes) (closed : Bool) : peer.step inbox closed ≠ none := by
  cases writes with
  | nil => exact absurd rfl pending
  | send => simp [Peer.step]

/-! ### An upstream that does not wait on the client -/

/-- The messages with which an upstream answers a startup packet: messages that are neither
ReadyForQuery nor ErrorResponse, then a ReadyForQuery, each one the `Frontend` reads. -/
structure Answer (codec : Codec) where
  messages : List Frame
  ready : Frame
  accepted : ∀ frame ∈ messages,
    codec.Accepts frame ∧ frame.tag ≠ readyForQueryTag ∧ frame.tag ≠ errorResponseTag
  readyAccepted : codec.Accepts ready
  isReady : ready.tag = readyForQueryTag

section Answers

variable {codec : Codec}

/-- The bytes of an answer from its `read`-th message on: those messages, then the
ReadyForQuery. -/
def Answer.restFrom (answer : Answer codec) (read : Nat) : Bytes :=
  ((answer.messages.drop read).map Frame.encode).flatten ++ answer.ready.encode

/-- The bytes of an answer. -/
def Answer.encode (answer : Answer codec) : Bytes := answer.restFrom 0

/-- The `read`-th message of an answer: one of the messages, or the ReadyForQuery after them. -/
def Answer.frameAt (answer : Answer codec) (read : Nat) : Frame :=
  if inside : read < answer.messages.length then answer.messages[read] else answer.ready

/-- The answer from its `read`-th message on is that message, then the rest; nothing comes after
the ReadyForQuery. -/
theorem Answer.restFrom_eq (answer : Answer codec) (read : Nat) :
    answer.restFrom read = (answer.frameAt read).encode ++
      if read < answer.messages.length then answer.restFrom (read + 1) else [] := by
  unfold Answer.restFrom Answer.frameAt
  split
  · next inside =>
    rw [List.drop_eq_getElem_cons inside, List.map_cons, List.flatten_cons, List.append_assoc]
  · next atEnd =>
    rw [List.drop_eq_nil_of_le (by omega)]
    simp

theorem Answer.accepts_frameAt (answer : Answer codec) (read : Nat) :
    codec.Accepts (answer.frameAt read) := by
  unfold Answer.frameAt
  split
  · exact (answer.accepted _ (List.getElem_mem _)).1
  · exact answer.readyAccepted

end Answers

/-! ### What each step does before the relay phase -/

section Steps

variable {pg : Pgproto} {s : Session pg}

/-- `relayStartup` blocks on the front of a startup packet, and once all of it is there reads it
and forwards what `Encode` writes back for it. -/
theorem Session.step_relayStartup_packet {packet : StartupPacket} {request : StartupRequest}
    (atLeast : 4 ≤ packet.body.length) (atMost : packet.body.length ≤ 10000)
    (decoded : decodeStartup packet.body = some request) {pending tail : Bytes}
    (startup : s.phase = .startup) (split : s.fromClient ++ pending = packet.encode ++ tail) :
    (s.step .relayStartup = none ∧ pending ≠ []) ∨
      ∃ rest, rest ++ pending = tail ∧ s.step .relayStartup =
        some { s.forwardToUpstream packet.encode (request.packet pg.order).encode rest with
          phase := .auth } := by
  rcases receiveStartupMessage_of_append atLeast atMost decoded split with
    ⟨blocked, pending⟩ | ⟨rest, read, restSplit⟩
  · exact .inl ⟨by simp [Session.step, relayStartup, startup, blocked], pending⟩
  · exact .inr ⟨rest, restSplit, by simp [Session.step, relayStartup, startup, read]⟩

/-- Once the whole startup packet is there, `relayStartup` reads it and forwards what `Encode`
writes back for it. -/
theorem Session.step_relayStartup_sent {packet : StartupPacket} {request : StartupRequest}
    (atLeast : 4 ≤ packet.body.length) (atMost : packet.body.length ≤ 10000)
    (decoded : decodeStartup packet.body = some request) {more : Bytes}
    (startup : s.phase = .startup) (fromClient : s.fromClient = packet.encode ++ more) :
    s.step .relayStartup =
      some { s.forwardToUpstream packet.encode (request.packet pg.order).encode more with
        phase := .auth } := by
  simp [Session.step, relayStartup, startup, fromClient,
    receiveStartupMessage_encode atLeast atMost decoded]

/-- `relayStartup` blocks on the front of the rest of an answer, and once the next message is
all there forwards what `Encode` writes back for it, starting the pumps on the ReadyForQuery. -/
theorem Session.step_relayStartup_answer {answer : Answer pg.frontend} {read : Nat}
    {pending later : Bytes} (auth : s.phase = .auth)
    (split : s.fromUpstream ++ pending = answer.restFrom read ++ later) :
    (s.step .relayStartup = none ∧ pending ≠ []) ∨
      ∃ written rest, rest ++ pending =
          (if read < answer.messages.length then answer.restFrom (read + 1) else []) ++ later ∧
        s.step .relayStartup =
          some { s.forwardToClient (answer.frameAt read).encode written rest with
            phase := if read < answer.messages.length then .auth else .pumping } := by
  rw [answer.restFrom_eq, List.append_assoc] at split
  rcases receive_of_append (answer.accepts_frameAt read) split with
    ⟨blocked, pending⟩ | ⟨written, rest, -, received, restSplit⟩
  · exact .inl ⟨by simp [Session.step, relayStartup, auth, blocked], pending⟩
  refine .inr ⟨written, rest, restSplit, ?_⟩
  simp only [Session.step, relayStartup, auth, received]
  unfold Answer.frameAt
  split
  · next inside =>
    obtain ⟨-, notReady, notError⟩ := answer.accepted _ (List.getElem_mem inside)
    simp only [notReady, notError, if_false]
  · simp only [answer.isReady, if_true]

/-- Once the next message of an answer is all there, `relayStartup` forwards it. -/
theorem Session.step_relayStartup_read {answer : Answer pg.frontend} {read : Nat} {later : Bytes}
    (auth : s.phase = .auth) (fromUpstream : s.fromUpstream = answer.restFrom read ++ later) :
    ∃ written, s.step .relayStartup =
      some { s.forwardToClient (answer.frameAt read).encode written
          ((if read < answer.messages.length then answer.restFrom (read + 1) else []) ++ later) with
        phase := if read < answer.messages.length then .auth else .pumping } := by
  rcases Session.step_relayStartup_answer auth
      (show s.fromUpstream ++ [] = answer.restFrom read ++ later by simpa using fromUpstream) with
    ⟨-, pending⟩ | ⟨written, rest, restSplit, moved⟩
  · exact absurd rfl pending
  · rw [List.append_nil] at restSplit
    exact ⟨written, restSplit ▸ moved⟩

/-- What `Encode` writes back for a packet `ReceiveStartupMessage` accepts fits its four length
bytes. -/
theorem reencoded_fits (order : MapOrder) {packet : StartupPacket} {request : StartupRequest}
    (atLeast : 4 ≤ packet.body.length) (atMost : packet.body.length ≤ 10000)
    (decoded : decodeStartup packet.body = some request) :
    (request.packet order).body.length + 4 < 2 ^ 32 := by
  have := reencoded_length_le order atLeast decoded
  omega

/-- The upstream reads the length of the packet the proxy forwarded. -/
theorem Session.step_upstream_length {sent : StartupPacket} (bound : sent.body.length + 4 < 2 ^ 32)
    {reply : StartupPacket → Peer} (atUpstream : s.upstream = Peer.recvStartup reply)
    (toUpstream : s.toUpstream = sent.encode) :
    s.step .upstream = some
      { s with
        upstream := .recv sent.body.length fun body => reply ⟨body⟩
        toUpstream := sent.body
        upstreamReceived := s.upstreamReceived ++ putUint32 (sent.body.length + 4) } := by
  have header := uint32_putUint32 (sent.body.length + 4)
  rw [Nat.mod_eq_of_lt bound] at header
  simp only [Nat.reducePow] at header
  simp [Session.step, atUpstream, toUpstream, Peer.recvStartup, Peer.step, StartupPacket.encode,
    putUint32, header]

/-- The upstream reads the body of the packet. -/
theorem Session.step_upstream_body {sent : StartupPacket} {reply : StartupPacket → Peer}
    (atUpstream : s.upstream = .recv sent.body.length fun body => reply ⟨body⟩)
    (toUpstream : s.toUpstream = sent.body) :
    s.step .upstream = some
      { s with
        upstream := reply sent
        toUpstream := []
        upstreamReceived := s.upstreamReceived ++ sent.body } := by
  simp [Session.step, atUpstream, toUpstream, Peer.step]

/-- The pumps and `relay`'s closing run only after startup, and never go back to it. -/
theorem Session.beyond_of_step {s' : Session pg} {move : Move}
    (later : move = .clientToUpstream ∨ move = .upstreamToClient ∨ move = .relay)
    (stepped : s.step move = some s') : s'.phase ≠ .startup ∧ s'.phase ≠ .auth := by
  rcases later with rfl | rfl | rfl
  · obtain ⟨runs, ⟨_, _, _, -, rfl⟩ | rfl⟩ := @Session.pump_cases _ _ _ .clientToUpstream stepped
    all_goals cases phase : s.phase <;> simp_all [RelayPhase.runs, RelayPhase.returns,
      Session.forward, Session.forwardToUpstream]
  · obtain ⟨runs, ⟨_, _, _, -, rfl⟩ | rfl⟩ := @Session.pump_cases _ _ _ .upstreamToClient stepped
    all_goals cases phase : s.phase <;> simp_all [RelayPhase.runs, RelayPhase.returns,
      Session.forward, Session.forwardToClient]
  · simp only [Session.step, relayCloses] at stepped
    split at stepped <;> cases stepped
    exact ⟨nofun, nofun⟩

end Steps

/-! ### The stages of startup -/

section Invariant

variable {pg : Pgproto}

/-- Where a session is, stage by stage, until the relay phase, between a client whose first
writes are `packet` and which then goes on as `next`, and an upstream that reads a startup
packet and answers it as `reply` does, with `answer`. `request` is what `packet` decodes to, and
the proxy forwards what `Encode` writes back for it. -/
inductive Session.StartsUp (packet : StartupPacket) (request : StartupRequest) (next : Peer)
    (answer : Answer pg.frontend) (reply : StartupPacket → Peer) : Session pg → Prop where
  /-- The relay phase or later. -/
  | beyond {s : Session pg} (startup : s.phase ≠ .startup) (auth : s.phase ≠ .auth) :
      Session.StartsUp packet request next answer reply s
  /-- The client has written `written` of its packet, and writes `rest` next; the upstream
  waits for the packet. -/
  | sending {s : Session pg} (written rest : Bytes) (split : written ++ rest = packet.encode)
      (startup : s.phase = .startup) (fromClient : s.fromClient = written)
      (writes : Peer.Writes rest s.client next) (atUpstream : s.upstream = Peer.recvStartup reply)
      (toUpstream : s.toUpstream = []) (fromUpstream : s.fromUpstream = []) :
      Session.StartsUp packet request next answer reply s
  /-- The client has written its packet, and `more` after it. -/
  | sent {s : Session pg} (more : Bytes) (startup : s.phase = .startup)
      (fromClient : s.fromClient = packet.encode ++ more)
      (atUpstream : s.upstream = Peer.recvStartup reply) (toUpstream : s.toUpstream = [])
      (fromUpstream : s.fromUpstream = []) :
      Session.StartsUp packet request next answer reply s
  /-- The proxy has forwarded the packet as `Encode` writes it back, and the upstream has read
  none of it. -/
  | forwarded {s : Session pg} (auth : s.phase = .auth)
      (atUpstream : s.upstream = Peer.recvStartup reply)
      (toUpstream : s.toUpstream = (request.packet pg.order).encode)
      (fromUpstream : s.fromUpstream = []) :
      Session.StartsUp packet request next answer reply s
  /-- The upstream has read the packet's length and waits for its body. -/
  | lengthRead {s : Session pg} (auth : s.phase = .auth)
      (atUpstream : s.upstream = .recv (request.packet pg.order).body.length fun body => reply ⟨body⟩)
      (toUpstream : s.toUpstream = (request.packet pg.order).body)
      (fromUpstream : s.fromUpstream = []) :
      Session.StartsUp packet request next answer reply s
  /-- The upstream has `remaining` of its answer still to write, and `relayStartup` has
  forwarded the first `read` messages. -/
  | answering {s : Session pg} (remaining : Bytes) (read : Nat) (auth : s.phase = .auth)
      (writes : ∃ after, Peer.Writes remaining s.upstream after) (toUpstream : s.toUpstream = [])
      (atMost : read ≤ answer.messages.length)
      (fromUpstream : s.fromUpstream ++ remaining = answer.restFrom read) :
      Session.StartsUp packet request next answer reply s
  /-- The upstream has written its answer and `later` after it, and `relayStartup` has
  forwarded the first `read` messages. -/
  | reading {s : Session pg} (read : Nat) (later : Bytes) (auth : s.phase = .auth)
      (toUpstream : s.toUpstream = []) (atMost : read ≤ answer.messages.length)
      (fromUpstream : s.fromUpstream = answer.restFrom read ++ later) :
      Session.StartsUp packet request next answer reply s

variable {packet : StartupPacket} {request : StartupRequest} {next : Peer}
  {answer : Answer pg.frontend} {reply : StartupPacket → Peer}

/-- A step of the client: it writes the rest of its packet, then whatever it writes lands after
the packet. -/
theorem Session.startsUp_client {s s' : Session pg}
    (startsUp : s.StartsUp packet request next answer reply)
    (stepped : s.step .client = some s') : s'.StartsUp packet request next answer reply := by
  simp only [Session.step, Option.map_eq_some'] at stepped
  obtain ⟨⟨next', written, read⟩, clientStep, rfl⟩ := stepped
  cases startsUp with
  | beyond startup auth => exact .beyond startup auth
  | sending written' rest split startup fromClient writes atUpstream toUpstream fromUpstream =>
    rcases writes.step clientStep with ⟨rest', rfl, -, writes'⟩ | ⟨rfl, -⟩
    · exact .sending (written' ++ written) rest' (by simpa using split) startup
        (by simp [fromClient]) writes' atUpstream toUpstream fromUpstream
    · exact .sent written startup (by simp [fromClient, ← split]) atUpstream toUpstream fromUpstream
  | sent more startup fromClient atUpstream toUpstream fromUpstream =>
    exact .sent (more ++ written) startup (by simp [fromClient]) atUpstream toUpstream fromUpstream
  | forwarded auth atUpstream toUpstream fromUpstream =>
    exact .forwarded auth atUpstream toUpstream fromUpstream
  | lengthRead auth atUpstream toUpstream fromUpstream =>
    exact .lengthRead auth atUpstream toUpstream fromUpstream
  | answering remaining read auth writes toUpstream atMost fromUpstream =>
    exact .answering remaining read auth writes toUpstream atMost fromUpstream
  | reading read later auth toUpstream atMost fromUpstream =>
    exact .reading read later auth toUpstream atMost fromUpstream

/-- A step of the upstream: it reads the packet's length, then its body, then writes its answer
chunk by chunk, and from then on it reads nothing, since nothing more is forwarded to it before
the relay phase. -/
theorem Session.startsUp_upstream (atLeast : 4 ≤ packet.body.length)
    (atMost : packet.body.length ≤ 10000) (decoded : decodeStartup packet.body = some request)
    (answers : ∀ received, ∃ after, Peer.Writes answer.encode (reply received) after)
    {s s' : Session pg} (startsUp : s.StartsUp packet request next answer reply)
    (stepped : s.step .upstream = some s') : s'.StartsUp packet request next answer reply := by
  cases startsUp with
  | beyond startup auth =>
    obtain ⟨_, -, rfl⟩ := Option.map_eq_some'.mp stepped
    exact .beyond startup auth
  | sending _ _ _ startup _ _ atUpstream toUpstream | sent _ startup _ atUpstream toUpstream =>
    simp [Session.step, atUpstream, toUpstream, Peer.recvStartup, Peer.step, Session.closed,
      startup] at stepped
  | forwarded auth atUpstream toUpstream fromUpstream =>
    obtain rfl := Option.some.inj ((Session.step_upstream_length
      (reencoded_fits pg.order atLeast atMost decoded) atUpstream toUpstream).symm.trans stepped)
    exact .lengthRead auth rfl rfl fromUpstream
  | lengthRead auth atUpstream toUpstream fromUpstream =>
    obtain rfl := Option.some.inj
      ((Session.step_upstream_body atUpstream toUpstream).symm.trans stepped)
    exact .answering answer.encode 0 auth (answers _) rfl (Nat.zero_le _)
      (by simp [fromUpstream, Answer.encode])
  | answering remaining read auth writes toUpstream atMost fromUpstream =>
    obtain ⟨after, writes⟩ := writes
    simp only [Session.step, Option.map_eq_some'] at stepped
    obtain ⟨⟨next', written, count⟩, upstreamStep, rfl⟩ := stepped
    rcases writes.step upstreamStep with ⟨rest, rfl, rfl, writes'⟩ | ⟨rfl, -⟩
    · exact .answering rest read auth ⟨after, writes'⟩ (by simp [toUpstream]) atMost
        (by simpa using fromUpstream)
    · exact .reading read written auth (by simp [toUpstream]) atMost
        (by simp [← fromUpstream])
  | reading read later auth toUpstream atMost fromUpstream =>
    obtain ⟨⟨next', written, _⟩, -, rfl⟩ := Option.map_eq_some'.mp stepped
    exact .reading read (later ++ written) auth (by simp [toUpstream]) atMost
      (by simp [fromUpstream])

/-- A step of `relayStartup`: it reads the startup packet once the client has written all of
it, then reads the answer a whole message at a time, and starts the pumps on its
ReadyForQuery. -/
theorem Session.startsUp_relayStartup (atLeast : 4 ≤ packet.body.length)
    (atMost : packet.body.length ≤ 10000) (decoded : decodeStartup packet.body = some request)
    {s s' : Session pg} (startsUp : s.StartsUp packet request next answer reply)
    (stepped : s.step .relayStartup = some s') : s'.StartsUp packet request next answer reply := by
  cases startsUp with
  | beyond startup auth =>
    cases phase : s.phase <;> simp_all [Session.step, relayStartup]
  | sending written rest split startup fromClient writes atUpstream toUpstream fromUpstream =>
    rcases Session.step_relayStartup_packet atLeast atMost decoded startup
        (show s.fromClient ++ rest = packet.encode ++ [] by simp [fromClient, split]) with
      ⟨blocked, -⟩ | ⟨rest', -, moved⟩
    · simp [blocked] at stepped
    · obtain rfl := Option.some.inj (moved.symm.trans stepped)
      exact .forwarded rfl atUpstream (by simp [Session.forwardToUpstream, toUpstream])
        fromUpstream
  | sent more startup fromClient atUpstream toUpstream fromUpstream =>
    obtain rfl := Option.some.inj
      ((Session.step_relayStartup_sent atLeast atMost decoded startup fromClient).symm.trans stepped)
    exact .forwarded rfl atUpstream (by simp [Session.forwardToUpstream, toUpstream]) fromUpstream
  | forwarded auth _ _ fromUpstream | lengthRead auth _ _ fromUpstream =>
    simp [Session.step, relayStartup, auth, fromUpstream, receive] at stepped
  | answering remaining read auth writes toUpstream atMost fromUpstream =>
    rcases Session.step_relayStartup_answer auth
        (show s.fromUpstream ++ remaining = answer.restFrom read ++ [] by simpa using fromUpstream)
      with ⟨blocked, -⟩ | ⟨written, rest, restSplit, moved⟩
    · simp [blocked] at stepped
    · obtain rfl := Option.some.inj (moved.symm.trans stepped)
      split
      · next inside =>
        exact .answering remaining (read + 1) rfl writes toUpstream inside
          (by simpa [inside] using restSplit)
      · exact .beyond nofun nofun
  | reading read later auth toUpstream atMost fromUpstream =>
    obtain ⟨written, moved⟩ := Session.step_relayStartup_read auth fromUpstream
    obtain rfl := Option.some.inj (moved.symm.trans stepped)
    split
    · next inside =>
      exact .reading (read + 1) later rfl toUpstream inside (by simp [Session.forwardToClient, inside])
    · exact .beyond nofun nofun

/-- The step lemma: every step keeps the invariant. -/
theorem Session.startsUp_step (atLeast : 4 ≤ packet.body.length)
    (atMost : packet.body.length ≤ 10000) (decoded : decodeStartup packet.body = some request)
    (answers : ∀ received, ∃ after, Peer.Writes answer.encode (reply received) after)
    {s s' : Session pg} {move : Move} (startsUp : s.StartsUp packet request next answer reply)
    (stepped : s.step move = some s') : s'.StartsUp packet request next answer reply := by
  cases move with
  | client => exact Session.startsUp_client startsUp stepped
  | upstream => exact Session.startsUp_upstream atLeast atMost decoded answers startsUp stepped
  | relayStartup => exact Session.startsUp_relayStartup atLeast atMost decoded startsUp stepped
  | clientToUpstream | upstreamToClient | relay =>
    have later := Session.beyond_of_step (by simp) stepped
    exact .beyond later.1 later.2

/-- The run lemma: every reachable state satisfies the invariant. -/
theorem Session.startsUp_of_reachable (atLeast : 4 ≤ packet.body.length)
    (atMost : packet.body.length ≤ 10000) (decoded : decodeStartup packet.body = some request)
    (answers : ∀ received, ∃ after, Peer.Writes answer.encode (reply received) after)
    {client : Peer} (opens : Peer.Writes packet.encode client next) {s : Session pg}
    (reachable : Session.Reachable (Session.opened pg client (Peer.recvStartup reply)) s) :
    s.StartsUp packet request next answer reply := by
  induction reachable with
  | refl => exact .sending [] packet.encode rfl rfl rfl opens rfl rfl rfl
  | tail _ _ stepped inductionHypothesis =>
    exact Session.startsUp_step atLeast atMost decoded answers inductionHypothesis stepped

/-- Before the relay phase, a state of the invariant is no deadlock: the client can write the
rest of its packet, the upstream can read or write, or `relayStartup` can read. -/
theorem Session.moves_of_startsUp (atLeast : 4 ≤ packet.body.length)
    (atMost : packet.body.length ≤ 10000) (decoded : decodeStartup packet.body = some request)
    {s : Session pg} (startsUp : s.StartsUp packet request next answer reply)
    (starting : s.phase = .startup ∨ s.phase = .auth) : ∃ move, s.step move ≠ none := by
  cases startsUp with
  | beyond startup auth => exact (starting.elim startup auth).elim
  | sending written rest split startup fromClient writes =>
    rcases Session.step_relayStartup_packet atLeast atMost decoded startup
        (show s.fromClient ++ rest = packet.encode ++ [] by simp [fromClient, split]) with
      ⟨-, pending⟩ | ⟨_, _, moved⟩
    · exact ⟨.client, by simpa [Session.step] using writes.moves pending s.toClient s.closed⟩
    · exact ⟨.relayStartup, by simp [moved]⟩
  | sent more startup fromClient =>
    exact ⟨.relayStartup,
      by simp [Session.step_relayStartup_sent atLeast atMost decoded startup fromClient]⟩
  | forwarded _ atUpstream toUpstream =>
    exact ⟨.upstream, by simp [Session.step_upstream_length
      (reencoded_fits pg.order atLeast atMost decoded) atUpstream toUpstream]⟩
  | lengthRead _ atUpstream toUpstream =>
    exact ⟨.upstream, by simp [Session.step_upstream_body atUpstream toUpstream]⟩
  | answering remaining read auth writes _ _ fromUpstream =>
    obtain ⟨after, writes⟩ := writes
    rcases Session.step_relayStartup_answer auth
        (show s.fromUpstream ++ remaining = answer.restFrom read ++ [] by simpa using fromUpstream)
      with ⟨-, pending⟩ | ⟨_, _, _, moved⟩
    · exact ⟨.upstream, by simpa [Session.step] using writes.moves pending s.toUpstream s.closed⟩
    · exact ⟨.relayStartup, by simp [moved]⟩
  | reading read later auth _ _ fromUpstream =>
    obtain ⟨_, moved⟩ := Session.step_relayStartup_read auth fromUpstream
    exact ⟨.relayStartup, by simp [moved]⟩

end Invariant

/-! ### Startup completes without the client -/

section Completion

variable {pg : Pgproto}

/-- The proxy and the upstream, with no step of the client, can take the session to the relay
phase. -/
def Session.ReachesRelay (s : Session pg) : Prop :=
  ∃ (moves : List Move) (s' : Session pg),
    (∀ move ∈ moves, move = .upstream ∨ move = .relayStartup) ∧ s.run moves = some s' ∧
      s'.phase = .pumping

theorem Session.ReachesRelay.cons {s next : Session pg} {move : Move}
    (startupMove : move = .upstream ∨ move = .relayStartup) (stepped : s.step move = some next)
    (rest : next.ReachesRelay) : s.ReachesRelay := by
  obtain ⟨moves, s', startupMoves, ran, pumping⟩ := rest
  refine ⟨move :: moves, s', ?_, by simp [Session.run, stepped, ran], pumping⟩
  simpa [startupMove] using startupMoves

variable {answer : Answer pg.frontend}

/-- Once the upstream has written its answer, `relayStartup` reads the rest of it and starts
the pumps. -/
theorem Session.reachesRelay_of_reading {read : Nat} {later : Bytes} {s : Session pg}
    (auth : s.phase = .auth) (fromUpstream : s.fromUpstream = answer.restFrom read ++ later) :
    s.ReachesRelay := by
  obtain ⟨written, moved⟩ := Session.step_relayStartup_read auth fromUpstream
  refine .cons (.inr rfl) moved ?_
  split
  · next inside =>
    exact @Session.reachesRelay_of_reading (read + 1) later _ rfl
      (by simp [Session.forwardToClient, inside])
  · exact ⟨[], _, by simp, rfl, rfl⟩
termination_by answer.messages.length - read

/-- While the upstream writes its answer, it can write the rest of it, and `relayStartup` then
reads it all and starts the pumps. -/
theorem Session.reachesRelay_of_answering {remaining : Bytes} {peer after : Peer}
    (writes : Peer.Writes remaining peer after) :
    ∀ {s : Session pg} {read : Nat}, s.upstream = peer → s.phase = .auth →
      read ≤ answer.messages.length → s.fromUpstream ++ remaining = answer.restFrom read →
      s.ReachesRelay := by
  induction writes with
  | nil =>
    intro s read _ auth atMost fromUpstream
    exact Session.reachesRelay_of_reading auth
      (show s.fromUpstream = answer.restFrom read ++ [] by simpa using fromUpstream)
  | @send chunk _ next' _ _ inductionHypothesis =>
    intro s read atUpstream auth atMost fromUpstream
    have stepped : s.step .upstream = some
        { s with
          upstream := next'
          fromUpstream := s.fromUpstream ++ chunk
          toUpstream := s.toUpstream.drop 0
          upstreamSent := s.upstreamSent ++ chunk
          upstreamReceived := s.upstreamReceived ++ s.toUpstream.take 0 } := by
      simp only [Session.step, atUpstream, Peer.step, Option.map_some']
    exact .cons (.inl rfl) stepped
      (inductionHypothesis rfl auth atMost (by simpa using fromUpstream))

variable {packet : StartupPacket} {request : StartupRequest} {next : Peer}
  {reply : StartupPacket → Peer}

/-- Before the relay phase, once the client has written its startup packet, the proxy and the
upstream reach the relay phase by themselves: the proxy forwards the packet, the upstream reads
it and answers, and the proxy forwards the answer. -/
theorem Session.reachesRelay_of_startsUp (atLeast : 4 ≤ packet.body.length)
    (atMost : packet.body.length ≤ 10000) (decoded : decodeStartup packet.body = some request)
    (answers : ∀ received, ∃ after, Peer.Writes answer.encode (reply received) after)
    {s : Session pg} (startsUp : s.StartsUp packet request next answer reply)
    (starting : s.phase = .startup ∨ s.phase = .auth)
    (sent : s.phase = .startup → packet.encode.length ≤ s.fromClient.length) : s.ReachesRelay := by
  have lengthRead : ∀ {s : Session pg}, s.phase = .auth →
      s.upstream = .recv (request.packet pg.order).body.length (fun body => reply ⟨body⟩) →
      s.toUpstream = (request.packet pg.order).body → s.fromUpstream = [] → s.ReachesRelay :=
    fun auth atUpstream toUpstream fromUpstream =>
      have ⟨_, writes⟩ := answers (request.packet pg.order)
      .cons (.inl rfl) (Session.step_upstream_body atUpstream toUpstream)
        (Session.reachesRelay_of_answering writes rfl auth (Nat.zero_le _)
          (show _ ++ answer.encode = answer.restFrom 0 by simp [fromUpstream, Answer.encode]))
  have forwarded : ∀ {s : Session pg}, s.phase = .auth → s.upstream = Peer.recvStartup reply →
      s.toUpstream = (request.packet pg.order).encode → s.fromUpstream = [] → s.ReachesRelay :=
    fun auth atUpstream toUpstream fromUpstream =>
      .cons (.inl rfl) (Session.step_upstream_length (reencoded_fits pg.order atLeast atMost decoded)
        atUpstream toUpstream)
        (lengthRead auth rfl rfl fromUpstream)
  have opened : ∀ {s : Session pg} {more : Bytes}, s.phase = .startup →
      s.fromClient = packet.encode ++ more → s.upstream = Peer.recvStartup reply →
      s.toUpstream = [] → s.fromUpstream = [] → s.ReachesRelay :=
    fun startup fromClient atUpstream toUpstream fromUpstream =>
      .cons (.inr rfl) (Session.step_relayStartup_sent atLeast atMost decoded startup fromClient)
        (forwarded rfl atUpstream (by simp [Session.forwardToUpstream, toUpstream]) fromUpstream)
  cases startsUp with
  | beyond startup auth => exact (starting.elim startup auth).elim
  | sending written rest split startup fromClient _ atUpstream toUpstream fromUpstream =>
    have whole : rest = [] := by
      have := sent startup
      rw [fromClient, ← split, List.length_append] at this
      exact List.eq_nil_of_length_eq_zero (by omega)
    exact @opened _ [] startup (by simp [fromClient, ← split, whole]) atUpstream toUpstream
      fromUpstream
  | sent _ startup fromClient atUpstream toUpstream fromUpstream =>
    exact opened startup fromClient atUpstream toUpstream fromUpstream
  | forwarded auth atUpstream toUpstream fromUpstream =>
    exact forwarded auth atUpstream toUpstream fromUpstream
  | lengthRead auth atUpstream toUpstream fromUpstream =>
    exact lengthRead auth atUpstream toUpstream fromUpstream
  | answering _ _ auth writes _ atMost fromUpstream =>
    obtain ⟨_, writes⟩ := writes
    exact Session.reachesRelay_of_answering writes rfl auth atMost fromUpstream
  | reading _ _ auth _ _ fromUpstream =>
    exact Session.reachesRelay_of_reading auth fromUpstream

end Completion

/-! ### Startup never stalls, and completes without the client -/

/-- A server that trusts the client: AuthenticationOk, then ReadyForQuery. -/
def trustAnswer : Answer Pgproto.roundTrip.frontend :=
  ⟨[authenticationOk], readyForQuery, by decide, by decide, rfl⟩

/-- A client that writes its startup packet in two chunks, and stops. -/
def chunkedClient : Peer :=
  Peer.sendChunks [startupPacket.encode.take 5, startupPacket.encode.drop 5] .done

/-- The trusting server, which writes its two messages one at a time. -/
def chunkedTrustServer : Peer :=
  Peer.recvStartup fun _ => Peer.sendChunks [authenticationOk.encode, readyForQuery.encode] .done

theorem chunkedClient_writes : Peer.Writes startupPacket.encode chunkedClient .done := by
  simpa using Peer.writes_sendChunks [startupPacket.encode.take 5, startupPacket.encode.drop 5] .done

theorem trustAnswer_written (received : StartupPacket) :
    ∃ after, Peer.Writes trustAnswer.encode
      ((fun _ => Peer.sendChunks [authenticationOk.encode, readyForQuery.encode] .done) received)
      after :=
  ⟨.done, by simpa using Peer.writes_sendChunks [authenticationOk.encode, readyForQuery.encode] .done⟩

end SqlTap.Postgres
