/-
This file models what `conn` in `proxy/postgres/conn.go` keeps about one connection and what
its capture hooks do to it: `captureClientMsg` on every frontend message the client→upstream
pump decodes, `captureUpstreamMsg` on every backend message the other pump decodes.

The hooks are pure state updates apart from two effects, which the model turns into inputs and
outputs. `uuid.New()` is read only when `detectTx` sees a BEGIN; the model passes the identifier
it would return as an argument. `emitEvent` hands the event to the shared channel; the model
returns it, and the channel is modelled where the connections meet (`SqlTap.Events`).
Wall-clock times (`executeStart`, `StartTime`) are not modelled.

The connection state is the only thing a run of captures carries, so everything later said about
runs of one connection is a statement about `Conn.after`, the state a history of captured
messages leaves behind.
-/

import Mathlib.Logic.Function.Basic
import SqlTap.Strings

namespace SqlTap.Postgres

/-! ### Decoded messages -/

/-- pgproto3's `Parse`, less the parameter type OIDs, which the proxy does not read. -/
structure Parse where
  name : Bytes
  query : Bytes
  deriving DecidableEq, Repr

/-- pgproto3's `Bind`, less the result format codes, which the proxy does not read. A parameter
is `none` where its wire length was `-1`: pgproto3 decodes a NULL to a nil slice. -/
structure Bind where
  destinationPortal : Bytes
  preparedStatement : Bytes
  parameterFormatCodes : List UInt16
  parameters : List (Option Bytes)
  deriving DecidableEq, Repr

/-- A frontend message as `Backend.Receive` decodes it, told apart as far as `captureClientMsg`
and the statement and portal semantics of the server tell them apart. -/
inductive FrontendMessage where
  | query (string : Bytes)
  | parse (message : Parse)
  | bind (message : Bind)
  | execute (portal : Bytes)
  | close
  /-- Describe, Sync, Flush, Terminate, a password or SASL response, copy data, and the rest. -/
  | other
  deriving DecidableEq, Repr

/-- A backend message as `Frontend.Receive` decodes it, told apart as far as
`captureUpstreamMsg` tells them apart. -/
inductive BackendMessage where
  | commandComplete (commandTag : Bytes)
  | errorResponse
  | other
  deriving DecidableEq, Repr

/-! ### Events -/

/-- Modelled from the spec: `proxy.Op`, whose declaration is not among the sources; the five
operations of §3. -/
inductive Op where
  | query | execute | begin | commit | rollback
  deriving DecidableEq, Repr

/-- Modelled from the spec: `proxy.Event`, whose declaration is not among the sources; the
fields of §3 less `start_time`. `args` is `none` for a nil slice. -/
structure Event where
  id : Bytes
  op : Op
  query : Bytes
  args : Option (List Bytes)
  txID : Bytes
  deriving DecidableEq, Repr

/-! ### The connection state -/

/-- The fields of `conn` that the capture hooks read and write. The sockets, the codecs and the
events channel are modelled by the relay and the channel. -/
structure Conn where
  preparedStmts : Bytes → Option Bytes
  lastParse : Bytes
  lastBindArgs : Option (List Bytes)
  lastBindStmt : Bytes
  activeTxID : Bytes
  nextID : UInt64

/-- `newConn`: an empty statement map, empty strings, a nil argument slice, and the counter at
zero. -/
def newConn : Conn where
  preparedStmts := fun _ => none
  lastParse := []
  lastBindArgs := none
  lastBindStmt := []
  activeTxID := []
  nextID := 0

/-- `generateID`: the counter is incremented, wrapping at `2 ^ 64`, and printed in decimal. -/
def generateID (c : Conn) : Bytes × Conn :=
  (formatUint (c.nextID + 1).toNat, { c with nextID := c.nextID + 1 })

/-- The three cases of `detectTx`'s switch, on `strings.ToUpper(strings.TrimSpace(query))`. -/
inductive TxClass where
  | begin | finish | other
  deriving DecidableEq, Repr

/-- Which case of `detectTx`'s switch a query falls in. -/
def txClass (query : Bytes) : TxClass :=
  let upper := toUpper (trimSpace query)
  if hasPrefix upper (ascii "BEGIN") then .begin
  else if hasPrefix upper (ascii "COMMIT") || hasPrefix upper (ascii "ROLLBACK") then .finish
  else .other

/-- A no-break space before `BEGIN` is trimmed, as is any Unicode white space. -/
example : txClass ([0xC2, 0xA0] ++ ascii "BEGIN") = .begin := by decide

/-- `unicode.ToUpper` maps the dotless `ı` to `I`. -/
example : txClass (ascii "beg" ++ [0xC4, 0xB1] ++ ascii "n") = .begin := by decide

/-- `detectTx`: a BEGIN installs the identifier `uuid.New()` returned, a COMMIT or ROLLBACK
clears the active one, anything else leaves it. -/
def detectTx (uuid query : Bytes) (c : Conn) : Conn :=
  match txClass query with
  | .begin => { c with activeTxID := uuid }
  | .finish => { c with activeTxID := [] }
  | .other => c

/-- `string(p)` for a parameter slice: a nil slice and an empty one both give `""`. -/
def bytesToString : Option Bytes → Bytes
  | none => []
  | some bytes => bytes

/-! ### The capture hooks -/

/-- `handleSimpleQuery`: transaction detection first, then the event, stamped with the
transaction identifier as detection left it. -/
def handleSimpleQuery (uuid string : Bytes) (c : Conn) : Conn × Event :=
  let c := detectTx uuid string c
  let (id, c) := generateID c
  (c, { id, op := .query, query := string, args := none, txID := c.activeTxID })

/-- `handleParse`. -/
def handleParse (m : Parse) (c : Conn) : Conn :=
  let c := { c with lastParse := m.query }
  if m.name ≠ [] then { c with preparedStmts := Function.update c.preparedStmts m.name m.query }
  else c

/-- `handleBind`: the statement name, and the parameters converted byte for byte. -/
def handleBind (m : Bind) (c : Conn) : Conn :=
  { c with lastBindStmt := m.preparedStatement, lastBindArgs := some (m.parameters.map bytesToString) }

/-- The query `handleExecute` resolves: the statement the last Bind named when that name is
non-empty and stored, the last Parse otherwise. -/
def executeQuery (c : Conn) : Bytes :=
  if c.lastBindStmt ≠ [] then
    match c.preparedStmts c.lastBindStmt with
    | some stored => stored
    | none => c.lastParse
  else c.lastParse

/-- `handleExecute`. -/
def handleExecute (uuid : Bytes) (c : Conn) : Conn × Event :=
  let q := executeQuery c
  let c := detectTx uuid q c
  let (id, c) := generateID c
  (c, { id, op := .execute, query := q, args := c.lastBindArgs, txID := c.activeTxID })

/-- `captureClientMsg`: the new state, and the event handed to `emitEvent`, if any. -/
def captureClientMsg (uuid : Bytes) (msg : FrontendMessage) (c : Conn) : Conn × Option Event :=
  match msg with
  | .query string => let (c, ev) := handleSimpleQuery uuid string c; (c, some ev)
  | .parse m => (handleParse m c, none)
  | .bind m => (handleBind m c, none)
  | .execute _ => let (c, ev) := handleExecute uuid c; (c, some ev)
  | .close | .other => (c, none)

/-- `handleCommandComplete`: the row count is parsed and dropped, since the event was emitted
when the request went out. -/
def handleCommandComplete (commandTag : Bytes) (c : Conn) : Conn :=
  let _rows := parseRowsAffected commandTag
  c

/-- `handleErrorResponse`: nothing is recorded. -/
def handleErrorResponse (c : Conn) : Conn := c

/-- `captureUpstreamMsg`. -/
def captureUpstreamMsg (msg : BackendMessage) (c : Conn) : Conn :=
  match msg with
  | .commandComplete commandTag => handleCommandComplete commandTag c
  | .errorResponse => handleErrorResponse c
  | .other => c

/-! ### What one capture does -/

/-- The active transaction identifier `detectTx` leaves behind. -/
def txAfter (uuid query active : Bytes) : Bytes :=
  match txClass query with
  | .begin => uuid
  | .finish => []
  | .other => active

theorem detectTx_eq (uuid query : Bytes) (c : Conn) :
    detectTx uuid query c = { c with activeTxID := txAfter uuid query c.activeTxID } := by
  unfold detectTx txAfter
  split <;> rfl

theorem handleParse_eq (m : Parse) (c : Conn) :
    handleParse m c = { c with
      lastParse := m.query
      preparedStmts :=
        if m.name ≠ [] then Function.update c.preparedStmts m.name m.query else c.preparedStmts } := by
  unfold handleParse
  split <;> rfl

@[simp] theorem captureClientMsg_query (uuid string : Bytes) (c : Conn) :
    captureClientMsg uuid (.query string) c =
      ({ c with activeTxID := txAfter uuid string c.activeTxID, nextID := c.nextID + 1 },
        some { id := formatUint (c.nextID + 1).toNat, op := .query, query := string, args := none,
               txID := txAfter uuid string c.activeTxID }) := by
  simp only [captureClientMsg, handleSimpleQuery, generateID, detectTx_eq]

@[simp] theorem captureClientMsg_execute (uuid portal : Bytes) (c : Conn) :
    captureClientMsg uuid (.execute portal) c =
      ({ c with activeTxID := txAfter uuid (executeQuery c) c.activeTxID, nextID := c.nextID + 1 },
        some { id := formatUint (c.nextID + 1).toNat, op := .execute, query := executeQuery c,
               args := c.lastBindArgs, txID := txAfter uuid (executeQuery c) c.activeTxID }) := by
  simp only [captureClientMsg, handleExecute, generateID, detectTx_eq]

@[simp] theorem captureClientMsg_parse (uuid : Bytes) (m : Parse) (c : Conn) :
    captureClientMsg uuid (.parse m) c = (handleParse m c, none) := rfl

@[simp] theorem captureClientMsg_bind (uuid : Bytes) (m : Bind) (c : Conn) :
    captureClientMsg uuid (.bind m) c = (handleBind m c, none) := rfl

@[simp] theorem captureClientMsg_close (uuid : Bytes) (c : Conn) :
    captureClientMsg uuid .close c = (c, none) := rfl

@[simp] theorem captureClientMsg_other (uuid : Bytes) (c : Conn) :
    captureClientMsg uuid .other c = (c, none) := rfl

/-- The upstream side records nothing: whatever the backend message, the state is unchanged. -/
theorem captureUpstreamMsg_eq (msg : BackendMessage) (c : Conn) : captureUpstreamMsg msg c = c := by
  cases msg <;> rfl

/-! ### Histories -/

/-- The messages `captureClientMsg` makes an event of. -/
def FrontendMessage.emits : FrontendMessage → Bool
  | .query _ | .execute _ => true
  | _ => false

theorem captureClientMsg_isSome (uuid : Bytes) (msg : FrontendMessage) (c : Conn) :
    (captureClientMsg uuid msg c).2.isSome = msg.emits := by
  cases msg <;> rfl

/-- Captures over a history, from `newConn`: the state left behind, and each event handed to
`emitEvent` beside the identifier `uuid.New()` would have returned while it was made. Each entry
of the history pairs a decoded message with that identifier. -/
def captureAll (history : List (Bytes × FrontendMessage)) : Conn × List (Bytes × Event) :=
  history.foldl
    (fun (c, events) (uuid, msg) =>
      ((captureClientMsg uuid msg c).1, events ++ ((captureClientMsg uuid msg c).2.map (uuid, ·)).toList))
    (newConn, [])

/-- The state a history leaves behind. -/
def Conn.after (history : List (Bytes × FrontendMessage)) : Conn := (captureAll history).1

/-- The events a history generates, in order, each with its step's identifier. -/
def eventsOf (history : List (Bytes × FrontendMessage)) : List (Bytes × Event) :=
  (captureAll history).2

@[simp] theorem after_nil : Conn.after [] = newConn := rfl

@[simp] theorem eventsOf_nil : eventsOf [] = [] := rfl

@[simp] theorem after_append_singleton (history : List (Bytes × FrontendMessage)) (uuid : Bytes)
    (msg : FrontendMessage) :
    Conn.after (history ++ [(uuid, msg)]) = (captureClientMsg uuid msg (Conn.after history)).1 := by
  simp only [Conn.after, captureAll, List.foldl_append, List.foldl_cons, List.foldl_nil]

@[simp] theorem eventsOf_append_singleton (history : List (Bytes × FrontendMessage))
    (uuid : Bytes) (msg : FrontendMessage) :
    eventsOf (history ++ [(uuid, msg)]) =
      eventsOf history ++ ((captureClientMsg uuid msg (Conn.after history)).2.map (uuid, ·)).toList := by
  simp only [eventsOf, Conn.after, captureAll, List.foldl_append, List.foldl_cons, List.foldl_nil]

end SqlTap.Postgres
