/-
This file models the events channel every connection of a proxy writes to, and proves what its
consumer can observe.

`New` makes the channel with room for 256 events; each relay's client→upstream pump sends the
events its captures generate with `emitEvent`, a `select` with a `default` arm, so a send into a
full channel drops the event instead of blocking; a single consumer receives from it. The
connections share nothing else. A run interleaves, in any order, connections being accepted,
client-side captures of any connection, upstream-side captures of any connection and receives
of the consumer. Captures of one connection are atomic with respect to each other, since one
goroutine makes them; the channel operation is atomic.

The state carries, beside what the program keeps, the history a proof needs: every decoded
frontend message with the connection that decoded it, every generated event with its
connection, in global order, and what the consumer received. The channel's buffer records the
connection of each event, which the Go channel does not; nothing reads it but the statements.

Over every run, each connection's state is the single-connection run over its own messages
(`consistent_of_reachable`), so the events it generates are those of `eventsOf` on its own
history, one per Query or Execute, numbered from 1 (`eventsOf_ids`): the identifiers parse back
to their positions modulo `2 ^ 64` and repeat only after `2 ^ 64` events (`event_ids_distinct`).
What the consumer receives from one connection is a subsequence of what that connection
generated, and while nothing has been received the buffer holds exactly the first 256 events
generated.
-/

import Mathlib.Data.List.Nodup
import SqlTap.Conn

namespace SqlTap.Postgres

/-! ### One connection's events -/

theorem toNat_succ (counter : UInt64) : (counter + 1).toNat = (counter.toNat + 1) % 2 ^ 64 := rfl

/-- The counter and the events of a history: one event per Query or Execute, and the counter
is their number modulo `2 ^ 64`. -/
theorem eventsOf_length (history : List (Bytes × FrontendMessage)) :
    (eventsOf history).length = history.countP (fun entry => entry.2.emits) ∧
      (Conn.after history).nextID.toNat = history.countP (fun entry => entry.2.emits) % 2 ^ 64 := by
  induction history using List.reverseRecOn with
  | nil => exact ⟨rfl, rfl⟩
  | append_singleton history entry inductionHypothesis =>
    obtain ⟨uuid, msg⟩ := entry
    obtain ⟨length, counter⟩ := inductionHypothesis
    cases msg <;>
      simp [length, counter, handleParse_eq, handleBind, FrontendMessage.emits, toNat_succ,
        Nat.add_mod]

/-- The `n`-th event of a history (from zero) carries the decimal of `n + 1` modulo `2 ^ 64`. -/
theorem eventsOf_ids (history : List (Bytes × FrontendMessage)) (n : Nat)
    (bound : n < (eventsOf history).length) :
    ((eventsOf history)[n]).2.id = formatUint ((n + 1) % 2 ^ 64) := by
  induction history using List.reverseRecOn with
  | nil => cases bound
  | append_singleton history entry inductionHypothesis =>
    obtain ⟨uuid, msg⟩ := entry
    have counter := (eventsOf_length history).2
    rw [← (eventsOf_length history).1] at counter
    cases msg with
    | query string | execute string =>
      simp only [eventsOf_append_singleton, captureClientMsg_query, captureClientMsg_execute,
        Option.map_some', Option.toList_some] at bound ⊢
      rcases Nat.lt_or_ge n (eventsOf history).length with old | new
      · rw [List.getElem_append_left old]
        exact inductionHypothesis old
      · simp only [List.length_append, List.length_singleton] at bound
        have last : n = (eventsOf history).length := by omega
        subst last
        simp [toNat_succ, counter]
    | _ =>
      simp only [eventsOf_append_singleton, captureClientMsg_parse, captureClientMsg_bind,
        captureClientMsg_close, captureClientMsg_other, Option.map_none', Option.toList_none,
        List.append_nil] at bound ⊢
      exact inductionHypothesis bound

/-- The identifiers of a history's events, in order: the decimals of `1, 2, …` modulo `2 ^ 64`. -/
theorem eventsOf_map_id (history : List (Bytes × FrontendMessage)) :
    (eventsOf history).map (fun event => event.2.id) =
      (List.range (eventsOf history).length).map fun n => formatUint ((n + 1) % 2 ^ 64) := by
  refine List.ext_getElem (by simp) fun n bound _ => ?_
  rw [List.getElem_map, eventsOf_ids history n (by simpa using bound)]
  simp

/-- What the identifiers of one connection's events say, over every history: the one of the
`n`-th event (from zero) parses back, with the digits parser of `strconv.ParseInt`, to `n + 1`
modulo `2 ^ 64`, so they increase strictly over the first `2 ^ 64 - 1` events; and they are
pairwise distinct exactly as long as the connection has generated at most `2 ^ 64` events. -/
theorem event_ids_distinct (history : List (Bytes × FrontendMessage)) :
    (eventsOf history).map (fun event => parseDigits event.2.id) =
        (List.range (eventsOf history).length).map (fun n => some ((n + 1) % 2 ^ 64)) ∧
      (((eventsOf history).map fun event => event.2.id).Nodup ↔
        (eventsOf history).length ≤ 2 ^ 64) := by
  have parsed : (eventsOf history).map (fun event => parseDigits event.2.id) =
      ((eventsOf history).map fun event => event.2.id).map parseDigits := by
    rw [List.map_map]
    rfl
  rw [parsed, eventsOf_map_id, List.map_map]
  refine ⟨List.map_congr_left fun n _ => parseDigits_formatUint _, ⟨fun distinct => ?_, fun few => ?_⟩⟩
  · by_contra many
    have wrapped := List.inj_on_of_nodup_map distinct (List.mem_range.mpr (by omega : 0 < _))
      (List.mem_range.mpr (not_le.mp many)) (by simp)
    exact absurd wrapped (by decide)
  · refine (List.nodup_range _).map_on fun first firstMember second secondMember same => ?_
    have congruent := formatUint_injective same
    simp only [List.mem_range] at firstMember secondMember
    omega

/-! ### The channel -/

/-- `make(chan proxy.Event, capacity)`: a buffer that never holds more than its capacity. Each
event is kept with the index of the connection that sent it. -/
structure Channel where
  capacity : Nat
  buffer : List (Nat × Event)
  bounded : buffer.length ≤ capacity

/-- `emitEvent`: a send that never blocks; on a full buffer the event is dropped. -/
def Channel.emit (channel : Channel) (sent : Nat × Event) : Channel :=
  if room : channel.buffer.length < channel.capacity then
    { channel with
      buffer := channel.buffer ++ [sent]
      bounded := by rw [List.length_append, List.length_singleton]; omega }
  else channel

@[simp] theorem Channel.capacity_emit (channel : Channel) (sent : Nat × Event) :
    (channel.emit sent).capacity = channel.capacity := by
  unfold Channel.emit
  split <;> rfl

/-- A receive of the consumer: it blocks on an empty buffer and otherwise takes the oldest
event. -/
def Channel.receive (channel : Channel) : Option ((Nat × Event) × Channel) :=
  match channel with
  | ⟨capacity, oldest :: rest, bounded⟩ =>
    some (oldest, ⟨capacity, rest, by simp only [List.length_cons] at bounded; omega⟩)
  | ⟨_, [], _⟩ => none

/-! ### Connections sharing the channel -/

/-- The capture side of a proxy: the state of every connection accepted so far, by index, and
the shared channel, with the history of the run. -/
structure Tap where
  conns : List Conn
  channel : Channel
  /-- Every frontend message captured, with its connection and its `uuid.New()` value. -/
  decoded : List (Nat × Bytes × FrontendMessage)
  /-- Every event generated, with its connection, in the order they were generated. -/
  generated : List (Nat × Event)
  /-- Every event the consumer received, with its connection, in order. -/
  received : List (Nat × Event)

/-- A proxy before its first connection, its channel made by `New`. -/
def Tap.initial : Tap := ⟨[], ⟨256, [], by decide⟩, [], [], []⟩

/-- One step of a run. -/
inductive Action where
  /-- `handleConn` starts a relay with `newConn`. -/
  | accept
  /-- The client→upstream pump of a connection captures a frontend message. -/
  | client (index : Nat) (uuid : Bytes) (msg : FrontendMessage)
  /-- The upstream→client pump of a connection captures a backend message. -/
  | upstream (index : Nat) (msg : BackendMessage)
  /-- The consumer receives. -/
  | receive

/-- What a step does; `none` when it cannot be taken (no such connection, or a receive on an
empty channel, which blocks). -/
def Tap.step (t : Tap) : Action → Option Tap
  | .accept => some { t with conns := t.conns ++ [newConn] }
  | .client index uuid msg =>
    if h : index < t.conns.length then
      let (c, ev) := captureClientMsg uuid msg t.conns[index]
      some { t with
        conns := t.conns.set index c
        channel :=
          match ev with
          | some event => t.channel.emit (index, event)
          | none => t.channel
        decoded := t.decoded ++ [(index, uuid, msg)]
        generated := t.generated ++ (ev.map (index, ·)).toList }
    else none
  | .upstream index msg =>
    if h : index < t.conns.length then
      some { t with conns := t.conns.set index (captureUpstreamMsg msg t.conns[index]) }
    else none
  | .receive =>
    match t.channel.receive with
    | some (event, channel) => some { t with channel, received := t.received ++ [event] }
    | none => none

/-- The states a run can reach. -/
inductive Reachable : Tap → Prop where
  | initial : Reachable Tap.initial
  | step {t t' : Tap} (action : Action) : Reachable t → t.step action = some t' → Reachable t'

/-- The entries of one connection, in order. -/
def ofConnection {α : Type} (index : Nat) (entries : List (Nat × α)) : List α :=
  entries.filterMap fun entry => if entry.1 = index then some entry.2 else none

@[simp] theorem ofConnection_nil {α : Type} (index : Nat) :
    ofConnection index ([] : List (Nat × α)) = [] :=
  rfl

@[simp] theorem ofConnection_append {α : Type} (index : Nat) (first second : List (Nat × α)) :
    ofConnection index (first ++ second) = ofConnection index first ++ ofConnection index second :=
  List.filterMap_append _ _ _

@[simp] theorem ofConnection_singleton {α : Type} (index other : Nat) (value : α) :
    ofConnection index [(other, value)] = if other = index then [value] else [] := by
  by_cases same : other = index <;> simp [ofConnection, same]

theorem ofConnection_eq_nil {α : Type} {index : Nat} {entries : List (Nat × α)}
    (absent : ∀ entry ∈ entries, entry.1 ≠ index) : ofConnection index entries = [] :=
  List.filterMap_eq_nil_iff.mpr fun entry member => by simp [absent entry member]

/-! ### The run invariant -/

/-- What every reachable state satisfies: each connection's state is the single-connection run
over its own messages, each connection's generated events are that run's events, the channel
keeps its capacity, what was received and what is buffered is a subsequence of what was
generated, and until the first receive the buffer is the first 256 events generated. -/
structure Consistent (t : Tap) : Prop where
  below : ∀ entry ∈ t.decoded, entry.1 < t.conns.length
  conns : ∀ (index : Nat) (inRange : index < t.conns.length),
    t.conns[index] = Conn.after (ofConnection index t.decoded)
  generated : ∀ index,
    ofConnection index t.generated = (eventsOf (ofConnection index t.decoded)).map Prod.snd
  capacity : t.channel.capacity = 256
  delivered : (t.received ++ t.channel.buffer).Sublist t.generated
  untouched : t.received = [] → t.channel.buffer = t.generated.take 256

theorem consistent_initial : Consistent Tap.initial where
  below _ member := by cases member
  conns _ inRange := by cases inRange
  generated _ := rfl
  capacity := rfl
  delivered := List.Sublist.slnil
  untouched _ := rfl

theorem consistent_accept {t : Tap} (consistent : Consistent t) :
    Consistent { t with conns := t.conns ++ [newConn] } := by
  obtain ⟨below, conns, generated, capacity, delivered, untouched⟩ := consistent
  refine ⟨fun entry member => ?_, fun index inRange => ?_, generated, capacity, delivered,
    untouched⟩
  · have := below entry member
    simp only [List.length_append, List.length_singleton]
    omega
  · simp only [List.length_append, List.length_singleton] at inRange
    rcases Nat.lt_or_ge index t.conns.length with old | new
    · rw [List.getElem_append_left old]
      exact conns index old
    · have fresh : index = t.conns.length := by omega
      subst fresh
      rw [List.getElem_append_right (Nat.le_refl _), ofConnection_eq_nil fun entry member =>
        Nat.ne_of_lt (below entry member)]
      simp

/-- The buffer after one more send, against the history of sends, while nothing was
received. -/
theorem emit_untouched {channel : Channel} {generated : List (Nat × Event)} (sent : Nat × Event)
    (capacity : channel.capacity = 256) (untouched : channel.buffer = generated.take 256) :
    (channel.emit sent).buffer = (generated ++ [sent]).take 256 := by
  have length := channel.bounded
  unfold Channel.emit
  split
  · rename_i room
    have short : generated.length < 256 := by
      rw [untouched, List.length_take] at room
      omega
    show channel.buffer ++ [sent] = _
    rw [untouched, List.take_of_length_le (by omega),
      List.take_of_length_le (by simp only [List.length_append, List.length_singleton]; omega)]
  · rename_i full
    have long : 256 ≤ generated.length := by
      rw [untouched, List.length_take] at full
      omega
    rw [untouched, List.take_append_of_le_length long]

theorem emit_delivered {channel : Channel} {received generated : List (Nat × Event)}
    (sent : Nat × Event) (delivered : (received ++ channel.buffer).Sublist generated) :
    (received ++ (channel.emit sent).buffer).Sublist (generated ++ [sent]) := by
  unfold Channel.emit
  split
  · rw [← List.append_assoc]
    exact delivered.append (List.Sublist.refl _)
  · exact delivered.trans (List.sublist_append_left _ _)

theorem consistent_client {t : Tap} (consistent : Consistent t) {index : Nat}
    (inRange : index < t.conns.length) (uuid : Bytes) (msg : FrontendMessage) :
    Consistent { t with
      conns := t.conns.set index (captureClientMsg uuid msg t.conns[index]).1
      channel :=
        match (captureClientMsg uuid msg t.conns[index]).2 with
        | some event => t.channel.emit (index, event)
        | none => t.channel
      decoded := t.decoded ++ [(index, uuid, msg)]
      generated := t.generated ++ ((captureClientMsg uuid msg t.conns[index]).2.map (index, ·)).toList } := by
  obtain ⟨below, conns, generated, capacity, delivered, untouched⟩ := consistent
  have state := conns index inRange
  refine ⟨fun entry member => ?_, fun other otherInRange => ?_, fun other => ?_, ?_, ?_, ?_⟩
  · simp only [List.mem_append, List.mem_singleton] at member
    rw [List.length_set]
    rcases member with member | rfl
    · exact below entry member
    · exact inRange
  · rw [List.getElem_set]
    by_cases same : index = other
    · subst same
      simp [state]
    · simp only [same, if_false, ofConnection_append, ofConnection_singleton, List.append_nil]
      exact conns other (by simpa using otherInRange)
  · show ofConnection other (t.generated ++ _) =
      (eventsOf (ofConnection other (t.decoded ++ [(index, uuid, msg)]))).map Prod.snd
    by_cases same : index = other
    · subst same
      have step := eventsOf_append_singleton (ofConnection index t.decoded) uuid msg
      rw [← state] at step
      simp only [ofConnection_append, ofConnection_singleton, if_true, step, generated]
      cases (captureClientMsg uuid msg t.conns[index]).2 <;> simp
    · cases (captureClientMsg uuid msg t.conns[index]).2 <;> simp [generated, same]
  · cases (captureClientMsg uuid msg t.conns[index]).2 <;> simpa using capacity
  · cases (captureClientMsg uuid msg t.conns[index]).2 with
    | none => simpa using delivered
    | some event => exact emit_delivered _ delivered
  · intro nothing
    cases (captureClientMsg uuid msg t.conns[index]).2 with
    | none => simpa using untouched nothing
    | some event => exact emit_untouched _ capacity (untouched nothing)

theorem Channel.receive_some {channel next : Channel} {event : Nat × Event}
    (received : channel.receive = some (event, next)) :
    channel.buffer = event :: next.buffer ∧ next.capacity = channel.capacity := by
  obtain ⟨capacity, buffer, bounded⟩ := channel
  cases buffer with
  | nil => cases received
  | cons oldest rest =>
    simp only [Channel.receive, Option.some.injEq, Prod.mk.injEq] at received
    obtain ⟨rfl, rfl⟩ := received
    exact ⟨rfl, rfl⟩

theorem consistent_receive {t : Tap} (consistent : Consistent t) {event : Nat × Event}
    {channel : Channel} (received : t.channel.receive = some (event, channel)) :
    Consistent { t with channel, received := t.received ++ [event] } := by
  obtain ⟨below, conns, generated, capacity, delivered, -⟩ := consistent
  obtain ⟨buffer, sameCapacity⟩ := Channel.receive_some received
  refine ⟨below, conns, generated, sameCapacity.trans capacity, ?_, fun nothing => ?_⟩
  · show (t.received ++ [event] ++ channel.buffer).Sublist t.generated
    rwa [List.append_assoc, List.singleton_append, ← buffer]
  · simp at nothing

/-- An upstream-side capture leaves the whole state as it was. -/
theorem step_upstream {t : Tap} {index : Nat} (inRange : index < t.conns.length)
    (msg : BackendMessage) : t.step (.upstream index msg) = some t := by
  have unchanged : t.conns.set index (captureUpstreamMsg msg t.conns[index]) = t.conns :=
    List.ext_getElem (by simp) fun other _ _ => by
      rw [List.getElem_set]
      split
      · subst_vars
        exact captureUpstreamMsg_eq _ _
      · rfl
  simp only [Tap.step, dif_pos inRange, unchanged]

theorem consistent_step {t t' : Tap} (consistent : Consistent t) {action : Action}
    (step : t.step action = some t') : Consistent t' := by
  cases action with
  | accept =>
    cases step
    exact consistent_accept consistent
  | client index uuid msg =>
    simp only [Tap.step] at step
    split at step
    · cases step
      exact consistent_client consistent ‹_› uuid msg
    · cases step
  | upstream index msg =>
    by_cases inRange : index < t.conns.length
    · rw [step_upstream inRange msg] at step
      cases step
      exact consistent
    · simp [Tap.step, inRange] at step
  | receive =>
    simp only [Tap.step] at step
    split at step
    · cases step
      exact consistent_receive consistent ‹_›
    · cases step

/-- The run lemma. -/
theorem consistent_of_reachable {t : Tap} (reachable : Reachable t) : Consistent t := by
  induction reachable with
  | initial => exact consistent_initial
  | step _ _ step inductionHypothesis => exact consistent_step inductionHypothesis step

/-! ### What the consumer observes -/

theorem step_client {t : Tap} {index : Nat} (inRange : index < t.conns.length) (uuid : Bytes)
    (msg : FrontendMessage) :
    ∃ t', t.step (.client index uuid msg) = some t' ∧
      t'.generated.length = t.generated.length + if msg.emits then 1 else 0 := by
  refine ⟨_, by simp only [Tap.step, dif_pos inRange]; rfl, ?_⟩
  have emitted := captureClientMsg_isSome uuid msg t.conns[index]
  cases event : (captureClientMsg uuid msg t.conns[index]).2 <;>
    simp_all

/-- The events of a proxy's connections, over every interleaving of accepts, client-side and
upstream-side captures of any connections, and receives of the consumer. A client-side capture
is always possible (sending never blocks) and generates one event for a Query or an Execute and
none for any other message; each connection's events are those of its own history, and the
`n`-th of them carries `FormatUint(n)` while `n < 2 ^ 64`. An upstream-side capture changes
nothing. The channel never holds more than 256 events. What the consumer received from a
connection is a subsequence of what that connection generated, in order, and before the first
receive the channel holds exactly the first 256 events generated. -/
theorem events_channel_law {t : Tap} (reachable : Reachable t) :
    (∀ index uuid msg, index < t.conns.length → ∃ t', t.step (.client index uuid msg) = some t' ∧
      t'.generated.length = t.generated.length + if msg.emits then 1 else 0) ∧
    (∀ index, ofConnection index t.generated =
        (eventsOf (ofConnection index t.decoded)).map Prod.snd ∧
      (ofConnection index t.generated).length =
        (ofConnection index t.decoded).countP (fun entry => entry.2.emits) ∧
      ∀ n (bound : n < (ofConnection index t.generated).length), n + 1 < 2 ^ 64 →
        ((ofConnection index t.generated)[n]).id = formatUint (n + 1)) ∧
    (∀ index msg, index < t.conns.length → t.step (.upstream index msg) = some t) ∧
    t.channel.buffer.length ≤ 256 ∧
    (∀ index, (ofConnection index t.received).Sublist (ofConnection index t.generated)) ∧
    (t.received = [] → t.channel.buffer = t.generated.take 256) := by
  have consistent := consistent_of_reachable reachable
  refine ⟨fun index uuid msg inRange => step_client inRange uuid msg, fun index => ?_,
    fun index msg inRange => step_upstream inRange msg, ?_, fun index => ?_,
    consistent.untouched⟩
  · have generated := consistent.generated index
    refine ⟨generated, by rw [generated, List.length_map, (eventsOf_length _).1],
      fun n bound small => ?_⟩
    simp only [generated, List.getElem_map]
    rw [eventsOf_ids _ _ (by simpa [generated] using bound), Nat.mod_eq_of_lt small]
  · exact consistent.capacity ▸ t.channel.bounded
  · have delivered := consistent.delivered.filterMap
      (fun entry => if entry.1 = index then some entry.2 else none)
    exact ((List.sublist_append_left _ _).trans
      (by simpa only [List.filterMap_append] using delivered) : _)

/-- A proxy that accepted one connection, whose client then sent `SELECT 1`. -/
def oneQuery : Tap :=
  { conns := [(captureClientMsg [] (.query (ascii "SELECT 1")) newConn).1]
    channel := Tap.initial.channel.emit
      (0, { id := ascii "1", op := .query, query := ascii "SELECT 1", args := none, txID := [] })
    decoded := [(0, [], .query (ascii "SELECT 1"))]
    generated :=
      [(0, { id := ascii "1", op := .query, query := ascii "SELECT 1", args := none, txID := [] })]
    received := [] }

theorem oneQuery_reachable : Reachable oneQuery :=
  .step (.client 0 [] (.query (ascii "SELECT 1"))) (.step .accept .initial rfl) rfl

theorem events_channel_law_oneQuery :
    Reachable oneQuery ∧ oneQuery.channel.buffer.length ≤ 256 ∧
      (oneQuery.received = [] → oneQuery.channel.buffer = oneQuery.generated.take 256) :=
  ⟨oneQuery_reachable, (events_channel_law oneQuery_reachable).2.2.2.1,
    (events_channel_law oneQuery_reachable).2.2.2.2.2⟩

end SqlTap.Postgres
