/-
This file is about the transaction identifiers a connection stamps on its events.

`detectTx` classifies the query of each event the way its switch reads
`strings.ToUpper(strings.TrimSpace(q))`: BEGIN-class, END-class (a COMMIT or ROLLBACK prefix) or
neither. Read against the history, one expects a BEGIN-class event to carry the identifier
generated for it, and every other event the identifier of the most recent BEGIN-class event when
no END-class event came after it, and the empty string otherwise. `openTransaction` is that
identifier, stated on the events generated so far.

Over every history the state's active identifier is `openTransaction` of the events generated
so far (`activeTxID_after`). The stamp is taken after detection has run, though, so an END-class
event carries the empty identifier, not the one it ends (`txID_of_capture`); the first BEGIN and
COMMIT of a session already show it (`commit_event_txID`).
-/

import SqlTap.Conn

namespace SqlTap.Postgres

/-! ### The open transaction of a history -/

/-- The identifier generated for the most recent BEGIN-class event of `events`, when no END-class
event follows it; empty otherwise. -/
def openTransaction (events : List (Bytes × Event)) : Bytes :=
  match events.reverse.find? (fun entry => txClass entry.2.query ≠ .other) with
  | some (uuid, ev) => if txClass ev.query = .begin then uuid else []
  | none => []

@[simp] theorem openTransaction_nil : openTransaction [] = [] := rfl

/-- One more event moves the open transaction exactly as `detectTx` moves the active one. -/
@[simp] theorem openTransaction_append_singleton (events : List (Bytes × Event)) (uuid : Bytes)
    (ev : Event) :
    openTransaction (events ++ [(uuid, ev)]) = txAfter uuid ev.query (openTransaction events) := by
  cases classOf : txClass ev.query <;>
    simp [openTransaction, txAfter, classOf, List.find?_cons]

/-! ### The active identifier over a run -/

/-- The active transaction identifier is always the open transaction of the events generated so
far: detection runs on exactly the queries that become events. -/
theorem activeTxID_after (history : List (Bytes × FrontendMessage)) :
    (Conn.after history).activeTxID = openTransaction (eventsOf history) := by
  induction history using List.reverseRecOn with
  | nil => rfl
  | append_singleton history entry inductionHypothesis =>
    obtain ⟨uuid, msg⟩ := entry
    cases msg <;>
      simp [inductionHypothesis, handleParse_eq, handleBind]

/-- The identifier each event carries, read against the history before it. A BEGIN-class event
carries the identifier generated for it and an event of neither class the open transaction of
the history, as expected; an END-class event carries the empty identifier, because `detectTx`
clears the active one before the event is stamped. -/
theorem txID_of_capture (history : List (Bytes × FrontendMessage)) (uuid : Bytes)
    (msg : FrontendMessage) (ev : Event)
    (emitted : (captureClientMsg uuid msg (Conn.after history)).2 = some ev) :
    ev.txID = match txClass ev.query with
      | .begin => uuid
      | .finish => []
      | .other => openTransaction (eventsOf history) := by
  have stamp : ev.txID = txAfter uuid ev.query (openTransaction (eventsOf history)) := by
    cases msg <;> simp only [captureClientMsg_query, captureClientMsg_execute,
        captureClientMsg_parse, captureClientMsg_bind, captureClientMsg_close,
        captureClientMsg_other, Option.some.injEq, reduceCtorEq] at emitted <;>
      subst emitted <;>
      simp only [activeTxID_after]
  rw [stamp]
  cases classOf : txClass ev.query <;> simp only [txAfter, classOf]

/-- A session's first BEGIN, as a simple query. -/
def beginCommit : List (Bytes × FrontendMessage) :=
  [(ascii "9b2c4d0e-6f1a-4c3b-8d2e-5a7f9c1b3e40", .query (ascii "BEGIN"))]

/-- The event of the COMMIT that follows it. -/
def commitEvent : Event :=
  { id := ascii "2", op := .query, query := ascii "COMMIT", args := none, txID := [] }

theorem txID_of_capture_commit :
    (captureClientMsg (ascii "unused") (.query (ascii "COMMIT")) (Conn.after beginCommit)).2 =
      some commitEvent ∧
    commitEvent.txID = match txClass commitEvent.query with
      | .begin => ascii "unused"
      | .finish => []
      | .other => openTransaction (eventsOf beginCommit) :=
  ⟨by decide,
    txID_of_capture beginCommit (ascii "unused") (.query (ascii "COMMIT")) commitEvent (by decide)⟩

/-- The COMMIT after a BEGIN carries the empty identifier, while the transaction it ends is the
BEGIN's. -/
theorem commit_event_txID :
    ((captureClientMsg (ascii "unused") (.query (ascii "COMMIT")) (Conn.after beginCommit)).2.map
        Event.txID = some []) ∧
      txClass (ascii "COMMIT") = .finish ∧
      openTransaction (eventsOf beginCommit) = ascii "9b2c4d0e-6f1a-4c3b-8d2e-5a7f9c1b3e40" := by
  decide

end SqlTap.Postgres
