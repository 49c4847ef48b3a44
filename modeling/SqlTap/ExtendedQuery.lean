/-
This file shows what the extended-query tracker of a connection remembers. `handleParse`,
`handleBind` and `handleExecute` keep four fields, and over every history of captured messages
each is a function of the history alone: the query of the most recent Parse, the query of the
most recent Parse of each non-empty name (the empty name is never a key), and the statement name
and the parameters of the most recent Bind, each its bytes or empty for a NULL
(`tracks_after`). The query and arguments of every Execute event follow
(`execute_event_resolves`).

The parameters are converted with `string(p)`, which maps a nil slice and an empty one to the
same string. The conversion therefore loses exactly one thing: whether a parameter was NULL or
empty (`bindArgs_eq_iff`).
-/

import Mathlib.Data.List.Forall2
import SqlTap.Conn

namespace SqlTap.Postgres

/-! ### The history the tracker summarises -/

/-- The most recent Bind of a history. -/
def lastBind (history : List (Bytes × FrontendMessage)) : Option Bind :=
  history.reverse.findSome? fun entry =>
    match entry.2 with
    | .bind m => some m
    | _ => none

/-- The query of the most recent Parse of a history that satisfies `named`. -/
def lastParseWhere (named : Bytes → Bool) (history : List (Bytes × FrontendMessage)) :
    Option Bytes :=
  history.reverse.findSome? fun entry =>
    match entry.2 with
    | .parse m => if named m.name then some m.query else none
    | _ => none

/-- The query of the most recent Parse of a history, of any name. -/
def lastParseAny (history : List (Bytes × FrontendMessage)) : Option Bytes :=
  lastParseWhere (fun _ => true) history

/-- The query of the most recent Parse of a history named `name`. -/
def lastParseNamed (name : Bytes) (history : List (Bytes × FrontendMessage)) : Option Bytes :=
  lastParseWhere (fun parsed => parsed == name) history

/-- The query an Execute after `history` should carry: that of the most recent Parse named like
the most recent Bind's statement, when that name is non-empty and was parsed; otherwise that of
the most recent Parse, or empty when there was none. -/
def resolvedQuery (history : List (Bytes × FrontendMessage)) : Bytes :=
  let otherwise := (lastParseAny history).getD []
  match (lastBind history).map Bind.preparedStatement with
  | some name => if name ≠ [] then (lastParseNamed name history).getD otherwise else otherwise
  | none => otherwise

/-- The arguments an Execute after `history` should carry: the parameters of the most recent
Bind in order, each its bytes as a string and a NULL as the empty string, or none when there was
no Bind. -/
def boundArgs (history : List (Bytes × FrontendMessage)) : Option (List Bytes) :=
  (lastBind history).map fun m => m.parameters.map fun parameter => parameter.getD []

/-- `string(p)` is the bytes of `p`, and empty for a nil slice. -/
theorem bytesToString_eq_getD (parameter : Option Bytes) :
    bytesToString parameter = parameter.getD [] := by
  cases parameter <;> rfl

@[simp] theorem lastBind_append_singleton (history : List (Bytes × FrontendMessage))
    (uuid : Bytes) (msg : FrontendMessage) :
    lastBind (history ++ [(uuid, msg)]) =
      match msg with
      | .bind m => some m
      | _ => lastBind history := by
  cases msg <;> simp [lastBind]

@[simp] theorem lastParseWhere_append_singleton (named : Bytes → Bool)
    (history : List (Bytes × FrontendMessage)) (uuid : Bytes) (msg : FrontendMessage) :
    lastParseWhere named (history ++ [(uuid, msg)]) =
      match msg with
      | .parse m => if named m.name then some m.query else lastParseWhere named history
      | _ => lastParseWhere named history := by
  cases msg with
  | parse m => by_cases hit : named m.name <;> simp [lastParseWhere, hit]
  | _ => simp [lastParseWhere]

/-! ### The tracker is a function of the history -/

/-- What the four tracker fields of a state say about a history. -/
structure Tracks (c : Conn) (history : List (Bytes × FrontendMessage)) : Prop where
  lastParse : c.lastParse = (lastParseAny history).getD []
  preparedStmts : ∀ name, c.preparedStmts name = if name = [] then none else lastParseNamed name history
  lastBindStmt : c.lastBindStmt = ((lastBind history).map Bind.preparedStatement).getD []
  lastBindArgs : c.lastBindArgs = boundArgs history

theorem tracks_newConn : Tracks newConn [] where
  lastParse := rfl
  preparedStmts _ := by simp [newConn, lastParseNamed, lastParseWhere]
  lastBindStmt := rfl
  lastBindArgs := rfl

/-- The step lemma: one capture keeps the tracker in step with the history. -/
theorem tracks_capture {c : Conn} {history : List (Bytes × FrontendMessage)}
    (tracks : Tracks c history) (uuid : Bytes) (msg : FrontendMessage) :
    Tracks (captureClientMsg uuid msg c).1 (history ++ [(uuid, msg)]) := by
  obtain ⟨lastParse, preparedStmts, lastBindStmt, lastBindArgs⟩ := tracks
  cases msg with
  | parse m =>
    refine ⟨by simp [handleParse_eq, lastParseAny], fun name => ?_, by simpa [handleParse_eq],
      by simpa [handleParse_eq, boundArgs]⟩
    by_cases empty : name = []
    · subst empty
      by_cases unnamed : m.name = [] <;>
        simp [handleParse_eq, Function.update, preparedStmts, unnamed, lastParseNamed]
    · by_cases same : m.name = name
      · subst same
        simp [handleParse_eq, empty, lastParseNamed]
      · simp only [captureClientMsg_parse, handleParse_eq]
        split <;> simp [Function.update_noteq (Ne.symm same), preparedStmts, same, empty,
          lastParseNamed]
  | bind m =>
    exact ⟨by simpa [handleBind, lastParseAny], fun name => by
      simpa [handleBind, lastParseNamed] using preparedStmts name, by simp [handleBind],
      by simp [handleBind, boundArgs, bytesToString_eq_getD]⟩
  | _ =>
    exact ⟨by simpa [lastParseAny], fun name => by
      simpa [lastParseNamed] using preparedStmts name, by simpa, by simpa [boundArgs]⟩

/-- The run lemma: after every history the tracker fields are the functions of the history. -/
theorem tracks_after (history : List (Bytes × FrontendMessage)) :
    Tracks (Conn.after history) history := by
  induction history using List.reverseRecOn with
  | nil => exact tracks_newConn
  | append_singleton history entry inductionHypothesis =>
    rw [after_append_singleton]
    exact tracks_capture inductionHypothesis entry.1 entry.2

theorem executeQuery_of_tracks {c : Conn} {history : List (Bytes × FrontendMessage)}
    (tracks : Tracks c history) : executeQuery c = resolvedQuery history := by
  rw [executeQuery, resolvedQuery, tracks.lastBindStmt]
  cases lastBind history with
  | none => simp [tracks.lastParse]
  | some m =>
    by_cases empty : m.preparedStatement = []
    · simp [empty, tracks.lastParse]
    · cases named : lastParseNamed m.preparedStatement history <;>
        simp [empty, tracks.lastParse, tracks.preparedStmts, named]

/-- Every Execute event carries as its query the text of the most recent Parse named like the
most recent Bind's statement when that name is non-empty and was parsed, and otherwise the text
of the most recent Parse (empty if none); as its arguments it carries the parameters of the most
recent Bind converted byte for byte (none if there was no Bind). The four tracker fields are
these functions of the history, and the empty name is never a key of the statement map. -/
theorem execute_event_resolves (history : List (Bytes × FrontendMessage)) (uuid portal : Bytes) :
    ((captureClientMsg uuid (.execute portal) (Conn.after history)).2.map
        fun ev => (ev.query, ev.args)) = some (resolvedQuery history, boundArgs history) ∧
      (Conn.after history).lastParse = (lastParseAny history).getD [] ∧
      (∀ name, (Conn.after history).preparedStmts name =
        if name = [] then none else lastParseNamed name history) ∧
      (Conn.after history).lastBindStmt = ((lastBind history).map Bind.preparedStatement).getD [] ∧
      (Conn.after history).lastBindArgs = boundArgs history := by
  have tracks := tracks_after history
  refine ⟨?_, tracks.lastParse, tracks.preparedStmts, tracks.lastBindStmt, tracks.lastBindArgs⟩
  simp [executeQuery_of_tracks tracks, tracks.lastBindArgs]

/-! ### Converting the parameters -/

/-- All parameters in text format: every format code Bind carries is `0` (none means text). -/
def Bind.allText (m : Bind) : Bool := m.parameterFormatCodes.all (· == 0)

/-- Two parameters `string(p)` cannot tell apart: equal ones, or a NULL and an empty value. -/
def sameText (first second : Option Bytes) : Prop :=
  first = second ∨ (first.getD [] = [] ∧ second.getD [] = [])

theorem bytesToString_eq_iff (first second : Option Bytes) :
    bytesToString first = bytesToString second ↔ sameText first second := by
  cases first <;> cases second <;> simp [bytesToString, sameText, eq_comm]
  rintro rfl rfl
  rfl

theorem map_bytesToString_eq_iff (first second : List (Option Bytes)) :
    first.map bytesToString = second.map bytesToString ↔ List.Forall₂ sameText first second := by
  induction first generalizing second with
  | nil => cases second <;> simp [List.forall₂_nil_left_iff]
  | cons head tail inductionHypothesis =>
    cases second <;> simp [bytesToString_eq_iff, inductionHypothesis, List.forall₂_nil_right_iff]

/-- The arguments `handleBind` records for two Binds, and so those the next Execute carries, are
equal exactly when the parameter lists agree position by position once a NULL is read as an
empty value. -/
theorem bindArgs_eq_iff (first second : Bind) (c : Conn) :
    (handleBind first c).lastBindArgs = (handleBind second c).lastBindArgs ↔
      List.Forall₂ sameText first.parameters second.parameters := by
  simp only [handleBind, Option.some.injEq, map_bytesToString_eq_iff]

/-- A Bind of one NULL parameter, in text format. -/
def nullParameter : Bind :=
  { destinationPortal := [], preparedStatement := [], parameterFormatCodes := [],
    parameters := [none] }

/-- A Bind of one empty parameter, in text format. -/
def emptyParameter : Bind := { nullParameter with parameters := [some []] }

/-- A NULL parameter and an empty one give the same arguments, recorded and carried. -/
theorem null_and_empty_collide :
    nullParameter.allText ∧ emptyParameter.allText ∧
      nullParameter.parameters ≠ emptyParameter.parameters ∧
      (handleBind nullParameter newConn).lastBindArgs =
        (handleBind emptyParameter newConn).lastBindArgs ∧
      (captureClientMsg [] (.execute []) (handleBind nullParameter newConn)).2.map Event.args =
        (captureClientMsg [] (.execute []) (handleBind emptyParameter newConn)).2.map Event.args := by
  decide

end SqlTap.Postgres
