/-
This file compares the tracker with what the server does. A PostgreSQL server keeps two maps:
prepared statements by name, where the empty name is the unnamed statement that every unnamed
Parse replaces, and portals by name, each holding the query of the statement it was bound to and
the parameters it was bound with. An Execute runs the portal it names.

The tracker keeps neither map: one statement map without the unnamed statement, the last Parse,
and the last Bind. It parts from the server four ways (`tracker_misses_portal`): two portals
bound before the first is executed; a Parse of the bound statement's name after the Bind; a
Bind of the unnamed statement after a named Parse; and any Parse after a Bind of the unnamed
statement. It agrees with the server whenever none of these happens (`execute_matches_portal`):
the Execute runs the portal of the most recent Bind, no Parse of the statement it named came
after that Bind, and for the unnamed statement no Parse at all, the last Parse before it being
unnamed.
-/

import SqlTap.ExtendedQuery

namespace SqlTap.Postgres

/-! ### The server's statements and portals -/

/-- The server's side of the extended query protocol: statements by name, and portals by name
with the query and the parameters they were bound with. -/
structure Server where
  statements : Bytes → Option Bytes
  portals : Bytes → Option (Bytes × List (Option Bytes))

/-- A server with no statement and no portal. -/
def Server.initial : Server := ⟨fun _ => none, fun _ => none⟩

/-- What a message does to the server's maps: a Parse stores its statement, a Bind of an existing
statement stores its portal. -/
def Server.receive (server : Server) : FrontendMessage → Server
  | .parse m => { server with statements := Function.update server.statements m.name (some m.query) }
  | .bind m =>
    match server.statements m.preparedStatement with
    | some query =>
      { server with
        portals := Function.update server.portals m.destinationPortal (some (query, m.parameters)) }
    | none => server
  | _ => server

/-- The server after a history. -/
def Server.after (history : List (Bytes × FrontendMessage)) : Server :=
  history.foldl (fun server entry => server.receive entry.2) Server.initial

/-- The messages the comparison allows at a point: a Bind of a statement that exists, an Execute
of a portal that exists, no Close and no simple Query. -/
def Server.accepts (server : Server) : FrontendMessage → Bool
  | .bind m => (server.statements m.preparedStatement).isSome
  | .execute portal => (server.portals portal).isSome
  | .close | .query _ => false
  | _ => true

/-- Whether every message of a history is allowed at its point. -/
def admissibleFrom : Server → List (Bytes × FrontendMessage) → Bool
  | _, [] => true
  | server, entry :: rest => server.accepts entry.2 && admissibleFrom (server.receive entry.2) rest

/-- Whether every message of a history is allowed at its point, from the start of the session. -/
def admissible (history : List (Bytes × FrontendMessage)) : Bool :=
  admissibleFrom Server.initial history

/-- An Execute of `portal` after `history` carries the query and the parameters of the portal
the server would run, each parameter as its bytes and a NULL as the empty string. -/
def ExecuteMatchesPortal (history : List (Bytes × FrontendMessage)) (uuid portal : Bytes) : Prop :=
  (captureClientMsg uuid (.execute portal) (Conn.after history)).2.map (fun ev => (ev.query, ev.args)) =
    ((Server.after history).portals portal).map fun bound =>
      (bound.1, some (bound.2.map fun parameter => parameter.getD []))

instance (history : List (Bytes × FrontendMessage)) (uuid portal : Bytes) :
    Decidable (ExecuteMatchesPortal history uuid portal) :=
  inferInstanceAs (Decidable (_ = _))

/-! ### Where the tracker and the server part -/

/-- An unnamed Parse, a named Parse, then a Bind of the unnamed statement to the unnamed
portal. -/
def unnamedThenNamed : List (Bytes × FrontendMessage) :=
  [([], .parse ⟨[], ascii "SELECT 1"⟩), ([], .parse ⟨ascii "s", ascii "SELECT 2"⟩),
    ([], .bind ⟨[], [], [], []⟩)]

/-- Two statements, each bound to a portal of its own. -/
def twoPortals : List (Bytes × FrontendMessage) :=
  [([], .parse ⟨ascii "a", ascii "SELECT 1"⟩), ([], .parse ⟨ascii "b", ascii "SELECT 2"⟩),
    ([], .bind ⟨ascii "p", ascii "a", [], [some (ascii "1")]⟩),
    ([], .bind ⟨ascii "q", ascii "b", [], [some (ascii "2")]⟩)]

/-- A named statement bound to the unnamed portal, then parsed again. -/
def reparsedAfterBind : List (Bytes × FrontendMessage) :=
  [([], .parse ⟨ascii "s", ascii "SELECT 1"⟩), ([], .bind ⟨[], ascii "s", [], []⟩),
    ([], .parse ⟨ascii "s", ascii "SELECT 2"⟩)]

/-- The unnamed statement bound to the unnamed portal, then a named Parse. -/
def parsedAfterUnnamedBind : List (Bytes × FrontendMessage) :=
  [([], .parse ⟨[], ascii "SELECT 1"⟩), ([], .bind ⟨[], [], [], []⟩),
    ([], .parse ⟨ascii "t", ascii "SELECT 2"⟩)]

/-- In each of the four ways the Execute that follows is allowed, and the server runs
`SELECT 1` (with the parameter `1` for the first of two portals), but the event carries
`SELECT 2`: the text of the last Parse, of the statement the last Bind named, or of its last
Parse. -/
theorem tracker_misses_portal :
    admissible (unnamedThenNamed ++ [([], .execute [])]) ∧
      ¬ExecuteMatchesPortal unnamedThenNamed [] [] ∧
      ((Server.after unnamedThenNamed).portals []).map Prod.fst = some (ascii "SELECT 1") ∧
      (captureClientMsg [] (.execute []) (Conn.after unnamedThenNamed)).2.map Event.query =
        some (ascii "SELECT 2") ∧
    admissible (twoPortals ++ [([], .execute (ascii "p"))]) ∧
      ¬ExecuteMatchesPortal twoPortals [] (ascii "p") ∧
      (captureClientMsg [] (.execute (ascii "p")) (Conn.after twoPortals)).2.map
        (fun ev => (ev.query, ev.args)) = some (ascii "SELECT 2", some [ascii "2"]) ∧
    admissible (reparsedAfterBind ++ [([], .execute [])]) ∧
      ¬ExecuteMatchesPortal reparsedAfterBind [] [] ∧
    admissible (parsedAfterUnnamedBind ++ [([], .execute [])]) ∧
      ¬ExecuteMatchesPortal parsedAfterUnnamedBind [] [] := by
  decide

/-! ### Where they agree -/

/-- What may follow the Bind of the executed portal when that Bind names `statement`: no Bind,
no Parse of `statement`, and no Parse at all when `statement` is the unnamed one. -/
def FrontendMessage.keepsBound (statement : Bytes) : FrontendMessage → Bool
  | .bind _ => false
  | .parse m => statement != [] && m.name != statement
  | _ => true

/-- The name of the most recent Parse of a history. -/
def lastParseName (history : List (Bytes × FrontendMessage)) : Option Bytes :=
  history.reverse.findSome? fun entry =>
    match entry.2 with
    | .parse m => some m.name
    | _ => none

/-- The condition under which the tracker follows the server for portal `portal`: the most
recent Bind of the history created it, nothing after it breaks the Bind's statement
(`keepsBound`), and a Bind of the unnamed statement follows an unnamed Parse. -/
def BoundLast (portal : Bytes) (history : List (Bytes × FrontendMessage)) : Prop :=
  ∃ before uuid m after, history = before ++ (uuid, .bind m) :: after ∧
    m.destinationPortal = portal ∧
    (∀ entry ∈ after, entry.2.keepsBound m.preparedStatement = true) ∧
    (m.preparedStatement = [] → lastParseName before = some [])

@[simp] theorem server_after_append_singleton (history : List (Bytes × FrontendMessage))
    (entry : Bytes × FrontendMessage) :
    Server.after (history ++ [entry]) = (Server.after history).receive entry.2 := by
  simp only [Server.after, List.foldl_append, List.foldl_cons, List.foldl_nil]

/-- The server's statement of each name is the query of the most recent Parse of that name. -/
theorem statements_after (history : List (Bytes × FrontendMessage)) (name : Bytes) :
    (Server.after history).statements name = lastParseNamed name history := by
  induction history using List.reverseRecOn with
  | nil => rfl
  | append_singleton history entry inductionHypothesis =>
    obtain ⟨uuid, msg⟩ := entry
    rw [server_after_append_singleton]
    cases msg with
    | parse m =>
      by_cases same : m.name = name
      · subst same
        simp [Server.receive, lastParseNamed]
      · simp [Server.receive, Function.update_noteq (Ne.symm same), inductionHypothesis,
          lastParseNamed, same]
    | bind m =>
      simp only [Server.receive]
      split <;> simpa [lastParseNamed] using inductionHypothesis
    | _ => simpa [Server.receive, lastParseNamed] using inductionHypothesis

/-- Only a Bind changes the server's portals. -/
theorem portals_receive (server : Server) (msg : FrontendMessage)
    (noBind : ∀ m, msg ≠ .bind m) : (server.receive msg).portals = server.portals := by
  cases msg with
  | bind m => exact absurd rfl (noBind m)
  | _ => rfl

theorem portals_after_append (history after : List (Bytes × FrontendMessage))
    (noBind : ∀ entry ∈ after, ∀ m, entry.2 ≠ .bind m) :
    (Server.after (history ++ after)).portals = (Server.after history).portals := by
  induction after using List.reverseRecOn with
  | nil => simp
  | append_singleton after entry inductionHypothesis =>
    rw [← List.append_assoc, server_after_append_singleton,
      portals_receive _ _ (noBind entry (by simp)),
      inductionHypothesis fun entry member => noBind entry (by simp [member])]

/-- A suffix every entry of which a search skips leaves the search of the reversed history as
it was. -/
theorem findSome?_reverse_quiet {β : Type} (pick : Bytes × FrontendMessage → Option β)
    (history after : List (Bytes × FrontendMessage)) (skipped : ∀ entry ∈ after, pick entry = none) :
    (history ++ after).reverse.findSome? pick = history.reverse.findSome? pick := by
  rw [List.reverse_append, List.findSome?_append,
    List.findSome?_eq_none_iff.mpr fun entry member => skipped entry (List.mem_reverse.mp member)]
  rfl

theorem lastParseAny_of_lastParseName {history : List (Bytes × FrontendMessage)} {name : Bytes}
    (named : lastParseName history = some name) :
    lastParseAny history = lastParseNamed name history := by
  unfold lastParseName at named
  unfold lastParseAny lastParseNamed lastParseWhere
  generalize history.reverse = entries at named ⊢
  induction entries with
  | nil => cases named
  | cons entry rest inductionHypothesis =>
    obtain ⟨uuid, msg⟩ := entry
    cases msg with
    | parse m =>
      simp only [List.findSome?_cons, Option.some.injEq] at named
      simp [named]
    | _ => simpa [List.findSome?_cons] using inductionHypothesis named

theorem admissibleFrom_append (server : Server) (history rest : List (Bytes × FrontendMessage)) :
    admissibleFrom server (history ++ rest) =
      (admissibleFrom server history &&
        admissibleFrom (history.foldl (fun server entry => server.receive entry.2) server) rest) := by
  induction history generalizing server with
  | nil => simp [admissibleFrom]
  | cons entry history inductionHypothesis =>
    simp [admissibleFrom, inductionHypothesis, Bool.and_assoc]

/-- A message allowed in an admissible history is allowed by the server at its point. -/
theorem accepts_of_admissible {before after : List (Bytes × FrontendMessage)}
    {entry : Bytes × FrontendMessage} (allowed : admissible (before ++ entry :: after)) :
    (Server.after before).accepts entry.2 = true := by
  simp only [admissible, admissibleFrom_append, admissibleFrom, Bool.and_eq_true] at allowed
  exact allowed.2.1

/-- What follows the Bind leaves the searches the tracker's fields stand for as they were after
the Bind: the last Bind, the last Parse of the bound statement's name, and, for the unnamed
statement, the last Parse. -/
theorem searches_after_bind {before after : List (Bytes × FrontendMessage)} {uuid : Bytes}
    {m : Bind} (keeps : ∀ entry ∈ after, entry.2.keepsBound m.preparedStatement = true) :
    lastBind (before ++ (uuid, .bind m) :: after) = some m ∧
      lastParseNamed m.preparedStatement (before ++ (uuid, .bind m) :: after) =
        lastParseNamed m.preparedStatement before ∧
      (m.preparedStatement = [] →
        lastParseAny (before ++ (uuid, .bind m) :: after) = lastParseAny before) := by
  have split : before ++ (uuid, FrontendMessage.bind m) :: after =
      before ++ [(uuid, FrontendMessage.bind m)] ++ after := by simp
  have skip : ∀ {β : Type} (pick : Bytes × FrontendMessage → Option β),
      (∀ entry ∈ after, pick entry = none) →
      (before ++ (uuid, FrontendMessage.bind m) :: after).reverse.findSome? pick =
        (before ++ [(uuid, FrontendMessage.bind m)]).reverse.findSome? pick :=
    fun pick skips => by rw [split]; exact findSome?_reverse_quiet pick _ after skips
  refine ⟨?_, ?_, fun unnamed => ?_⟩
  · rw [lastBind, skip _ fun ⟨_, msg⟩ member => ?_]
    · simp
    · have := keeps _ member
      cases msg <;> first | rfl | simp [FrontendMessage.keepsBound] at this
  · rw [lastParseNamed, lastParseWhere, skip _ fun ⟨_, msg⟩ member => ?_]
    · simp [lastParseNamed, lastParseWhere]
    · have := keeps _ member
      cases msg with
      | parse parsed =>
        simp only [FrontendMessage.keepsBound, Bool.and_eq_true, bne_iff_ne] at this
        simp [this.2]
      | _ => rfl
  · rw [lastParseAny, lastParseWhere, skip _ fun ⟨_, msg⟩ member => ?_]
    · simp [lastParseAny, lastParseWhere]
    · have := keeps _ member
      cases msg with
      | parse parsed => simp [FrontendMessage.keepsBound, unnamed] at this
      | _ => rfl

/-- The tracker refines the server wherever it can: an Execute of the portal the most recent
Bind created, in an admissible history, carries the query and the parameters of the portal the
server runs, when no Parse of the statement that Bind named came after it, and, for the unnamed
statement, no Parse at all came after it and the last Parse before it was unnamed. -/
theorem execute_matches_portal (history : List (Bytes × FrontendMessage)) (uuid portal : Bytes)
    (allowed : admissible (history ++ [(uuid, .execute portal)]))
    (bound : BoundLast portal history) : ExecuteMatchesPortal history uuid portal := by
  obtain ⟨before, bindUuid, m, after, rfl, rfl, keeps, unnamed⟩ := bound
  have statementExists : (lastParseNamed m.preparedStatement before).isSome := by
    have := @accepts_of_admissible before (after ++ [(uuid, .execute m.destinationPortal)]) _
      (by simpa using allowed)
    simpa [Server.accepts, statements_after] using this
  obtain ⟨query, parsed⟩ := Option.isSome_iff_exists.mp statementExists
  obtain ⟨lastBindEq, namedEq, anyEq⟩ := @searches_after_bind before _ bindUuid _ keeps
  have noBind : ∀ entry ∈ after, ∀ other, entry.2 ≠ .bind other := fun entry member other same => by
    simpa [same, FrontendMessage.keepsBound] using keeps entry member
  have portalEq : (Server.after (before ++ (bindUuid, .bind m) :: after)).portals =
      ((Server.after before).receive (.bind m)).portals := by
    rw [show before ++ (bindUuid, FrontendMessage.bind m) :: after =
        before ++ [(bindUuid, .bind m)] ++ after by simp,
      portals_after_append _ _ noBind, server_after_append_singleton]
  have resolved : resolvedQuery (before ++ (bindUuid, .bind m) :: after) = query := by
    simp only [resolvedQuery, lastBindEq, namedEq, parsed, Option.map_some']
    by_cases empty : m.preparedStatement = []
    · rw [empty] at parsed
      simp [empty, anyEq empty, lastParseAny_of_lastParseName (unnamed empty), parsed]
    · simp [empty]
  have tracks := tracks_after (before ++ (bindUuid, .bind m) :: after)
  simp [ExecuteMatchesPortal, executeQuery_of_tracks tracks, resolved, tracks.lastBindArgs,
    boundArgs, lastBindEq, portalEq, Server.receive, statements_after, parsed]

/-- A named statement bound to the unnamed portal, and another statement parsed after the
Bind. -/
def parseBindParse : List (Bytes × FrontendMessage) :=
  [([], .parse ⟨ascii "s", ascii "SELECT $1::int"⟩), ([], .bind ⟨[], ascii "s", [], [some (ascii "1")]⟩),
    ([], .parse ⟨ascii "t", ascii "SELECT 2"⟩)]

theorem execute_matches_portal_parseBindParse :
    admissible (parseBindParse ++ [([], .execute [])]) ∧ BoundLast [] parseBindParse ∧
      ExecuteMatchesPortal parseBindParse [] [] :=
  have allowed : admissible (parseBindParse ++ [([], .execute [])]) := by decide
  have bound : BoundLast [] parseBindParse :=
    ⟨[([], .parse ⟨ascii "s", ascii "SELECT $1::int"⟩)], [],
      ⟨[], ascii "s", [], [some (ascii "1")]⟩, [([], .parse ⟨ascii "t", ascii "SELECT 2"⟩)], rfl, rfl,
      by decide, fun empty => by cases empty⟩
  ⟨allowed, bound, execute_matches_portal parseBindParse [] [] allowed bound⟩

end SqlTap.Postgres
