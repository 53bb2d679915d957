/-
The embedded SQL runtime as the programs see it: SQLCA, the table that
turns a PostgreSQL error into an SQLCODE, the calls, and the error
paragraph both programs contain.

# A session

Everything a run cannot determine is in the `Session`: whether CONNECT
fails, which statements the server refuses, and the error each statement
comes back with if it is rejected. Statements are counted as they reach
the server. An error is an `Sqlca` whose SQLCODE is not zero; a
`PgSession` gives the PostgreSQL errors instead, and the runtime's table
the SQLCODEs.

# A world

The world of a run is the server, the connection, SQLCA, and two
records no statement reads: the statements that reached the server
(`log`) and what was displayed (`console`).

`OCDB_PG_IGNORE_ERROR` is taken to be unset: no savepoints are sent.
-/
import CobolExercises.Database.Sql

namespace CobolExercises.Database

open Lib

-- ================================================================== SQLCA

/-- The fields of SQLCA the programs read. -/
structure Sqlca where
  sqlcode : Int
  sqlstate : String
  sqlerrmc : Line
deriving DecidableEq

/-- `OCPG_NO_ERROR`. -/
def Sqlca.success : Sqlca := ⟨0, "00000", []⟩

/-- `OCDBSetLibErrorStatus(st, OCDB_NO_CONN)`. -/
def Sqlca.noConn (ca : Sqlca) : Sqlca :=
  { ca with sqlcode := -220, sqlstate := "08003" }

/-- An SQLCA that reports a failure. -/
abbrev Failed := { ca : Sqlca // ca.sqlcode ≠ 0 }

/-- How PostgreSQL answers a statement it does not carry out. -/
inductive PgError where
  | fatal (state : Option String) (message : Line)
  | badResponse (message : Line)

/-- The SQLSTATEs the runtime tells apart: `OCPG_CONNECT`, `OCPG_NO_CONN`,
`OCPG_TRANS`, `OCPG_SUBSELECT_NOT_ONE`, `OCPG_DUPLICATE_KEY`,
`OCPG_WARNING_IN_TRANSACTION`, `OCPG_WARNING_NO_TRANSACTION`,
`OCPG_WARNING_UNKNOWN_PORTAL`, `OCPG_DATA_FORMAT_ERROR`,
`OCPG_WARNING_PORTAL_EXISTS`, `OCPG_PGSQL`. -/
def sqlcodes : List (String × Int) :=
  [ ("08001", -402), ("08003", -220), ("08007", -401), ("21000", -404),
    ("23505", -403), ("25001", -603), ("25P01", -604), ("34000", -602),
    ("42804", -204), ("42P03", -605), ("55P03", -400) ]

/-- The SQLCODE of an SQLSTATE; `OCPG_PGSQL` is the `else` of the chain. -/
def sqlcodeOf (state : String) : Int :=
  match sqlcodes.find? (·.1 == state) with
  | some entry => entry.2
  | none => -400

/-- `OCDB_PGSetResultStatus` on an error; -9999 is
`OCDB_UNDEFINED_ERROR`, 70 is `SQLERRMC_LEN`. -/
def ocdbPGSetResultStatus : PgError → Sqlca
  | .fatal (some state) message =>
      ⟨sqlcodeOf state, state, message.take 70⟩
  | .fatal none message => ⟨-9999, "     ", message.take 70⟩
  | .badResponse message => ⟨-9999, "     ", message.take 70⟩

/-- The table has none of the codes the programs' EVALUATE names. -/
theorem sqlcodeOf_le (state : String) : sqlcodeOf state ≤ -200 := by
  have htable : ∀ entry ∈ sqlcodes, entry.2 ≤ -200 := by decide
  unfold sqlcodeOf
  split
  case h_1 entry hfind => exact htable entry (List.mem_of_find?_eq_some hfind)
  case h_2 => decide

theorem ocdbPGSetResultStatus_le (e : PgError) :
    (ocdbPGSetResultStatus e).sqlcode ≤ -200 := by
  rcases e with ⟨_ | state, message⟩ | message
  · exact (by decide : (-9999 : Int) ≤ -200)
  · exact sqlcodeOf_le state
  · exact (by decide : (-9999 : Int) ≤ -200)

-- =========================================================== the session

/-- What a run cannot determine. -/
structure Session where
  connectError : Option Failed
  refuses : Nat → Bool
  errors : Nat → Failed

/-- A session whose statements fail with PostgreSQL errors. -/
structure PgSession where
  connectError : Option Failed
  refuses : Nat → Bool
  errors : Nat → PgError

/-- The session as the programs see it through the runtime's table. -/
def PgSession.toSession (ses : PgSession) : Session where
  connectError := ses.connectError
  refuses := ses.refuses
  errors i := ⟨ocdbPGSetResultStatus (ses.errors i), by
    have := ocdbPGSetResultStatus_le (ses.errors i)
    omega⟩

-- ============================================================= the world

/-- A piece of a DISPLAY: a literal or the contents of an item. -/
inductive Item where
  | lit (s : String)
  | num (n : Int)
  | text (s : List Char)
deriving DecidableEq

/-- One DISPLAY. -/
abbrev Display := List Item

/-- A statement that reached the server: whether it was accepted, and
whether it was sent inside an aborted transaction. -/
structure Event where
  query : Query
  accepted : Bool
  inAborted : Bool
deriving DecidableEq

/-- The server, the connection, SQLCA, and the records of the run. -/
structure World where
  server : Transaction.Server Tables
  connected : Bool
  sqlca : Sqlca
  log : List Event
  console : List Display

/-- Before CONNECT. -/
def World.initial (db : Tables) : World where
  server := ⟨db, .none⟩
  connected := false
  sqlca := Sqlca.success
  log := []
  console := []

/-- Several DISPLAYs, one after the other. -/
def World.displayAll (shown : List Display) (w : World) : World :=
  { w with console := w.console ++ shown }

/-- `DISPLAY items`. -/
def World.display (items : Display) (w : World) : World :=
  w.displayAll [items]

-- ============================================================== the calls

section Calls

variable (ses : Session)

/-- `OCDBExec`, `OCDBSetResultStatus`. -/
def send (q : Query) (w : World) : World :=
  let i := w.log.length
  let reply := w.server.handle (ses.refuses i) q.request
  { w with
    server := reply.2
    log := w.log ++ [⟨q, reply.1, w.server.txn.isAborted⟩]
    sqlca := if reply.1 then Sqlca.success else (ses.errors i).1 }

/-- `OCESQLConnect`: a new connection starts with BEGIN. -/
def ocesqlConnect (w : World) : World :=
  match ses.connectError with
  | some e => { w with sqlca := e.1 }
  | none => send ses .begin { w with connected := true }

/-- `OCESQLExec` and `OCESQLExecParams`. -/
def ocesqlExec (q : Query) (w : World) : World :=
  if w.connected then
    let w := send ses q w
    if w.sqlca.sqlcode < 0 then w
    else if q = .commit ∨ q = .rollback then send ses .begin w
    else w
  else { w with sqlca := w.sqlca.noConn }

/-- `OCESQLSetSQLParams` with type 16: the item as a C string. -/
def hostText {n : Nat} (item : PicX n) : List Char :=
  item.chars.takeWhile (· ≠ '\x00')

/-- `OCESQLDisconnect`: the server discards an open transaction. -/
def ocesqlDisconnect (w : World) : World :=
  { w with server := w.server.close, connected := false }

/-- What ERROR-RTN displays, branch by branch of its EVALUATE. -/
def errorTexts (code : Int → Display) (connection : String) (ca : Sqlca) :
    List Display :=
  [.lit "*** SQL ERROR ***"] :: code ca.sqlcode ::
    if ca.sqlcode = 10 then [[.lit "Record not found"]]
    else if ca.sqlcode = -1 then [[.lit connection]]
    else if ca.sqlcode = -20 then [[.lit "Internal error"]]
    else if ca.sqlcode = -30 then
      [ [.lit "PostgreSQL error"],
        [.lit "ERRCODE: ", .lit ca.sqlstate],
        [.text ca.sqlerrmc] ]
    else
      [ [.lit "Undefined error"],
        [.lit "ERRCODE: ", .lit ca.sqlstate],
        [.text ca.sqlerrmc] ]

/-- ERROR-RTN: in branch -30 the texts are followed by a ROLLBACK. The two
programs differ in how they show the code and in the text for -1. -/
def errorRtn (code : Int → Display) (connection : String) (w : World) :
    World :=
  let w := w.displayAll (errorTexts code connection w.sqlca)
  if w.sqlca.sqlcode = -30 then ocesqlExec ses .rollback w else w

end Calls

/-- `IF SQLCODE NOT = ZERO PERFORM ERROR-RTN`. -/
def checkSqlcode (rtn : World → World) (w : World) : World :=
  if w.sqlca.sqlcode ≠ 0 then rtn w else w

-- ======================================================= what the calls do

section Specs

variable {ses : Session} {w : World} {d p p' : Tables} {ok : Bool}
  {q : Query}

/-- Inside a transaction that started from `d`: the statements so far have
worked out `p`, and none of them has failed if `ok`. -/
structure InTxn (d p : Tables) (ok : Bool) (w : World) : Prop where
  connected : w.connected = true
  server : w.server = ⟨d, .working ok p⟩

/-- DISPLAY is not the server's business. -/
theorem InTxn.displayAll (h : InTxn d p ok w) (shown : List Display) :
    InTxn d p ok (w.displayAll shown) :=
  ⟨h.connected, h.server⟩

/-- Without a connection a call only reports that. -/
theorem ocesqlExec_of_not_connected (h : w.connected = false) :
    ocesqlExec ses q w = { w with sqlca := w.sqlca.noConn } := by
  unfold ocesqlExec
  rw [if_neg (by simp [h])]

/-- A call sends its statement and nothing else; the server accepts it
unless it refuses it or an earlier one has failed. -/
theorem ocesqlExec_statement (h : InTxn d p ok w)
    (hq : q.isStatement = true) (hp : q.effect p = some p') :
    ocesqlExec ses q w = { w with
      server := ⟨d, .working (ok && !ses.refuses w.log.length) p'⟩
      log := w.log ++ [⟨q, ok && !ses.refuses w.log.length, !ok⟩]
      sqlca := if (ok && !ses.refuses w.log.length) = true
        then Sqlca.success else (ses.errors w.log.length).1 } := by
  have hne : ¬(q = .commit ∨ q = .rollback) := by
    intro hend
    cases hend with
    | inl hcommit => rw [hcommit] at hq; cases hq
    | inr hrollback => rw [hrollback] at hq; cases hq
  have hsend : ocesqlExec ses q w = send ses q w := by
    unfold ocesqlExec
    dsimp only
    rw [if_pos h.connected, if_neg hne, ite_self]
  rw [hsend, send, h.server, Query.request_of_isStatement hq]
  simp only [Transaction.Server.handle_exec hp,
    Transaction.Txn.isAborted_working]

/-- Afterwards SQLCODE tells whether it was accepted. -/
theorem sqlcode_ocesqlExec (h : InTxn d p ok w)
    (hq : q.isStatement = true) (hp : q.effect p = some p') :
    (ocesqlExec ses q w).sqlca.sqlcode = 0
      ↔ (ok && !ses.refuses w.log.length) = true := by
  rw [ocesqlExec_statement h hq hp]
  dsimp only
  split
  case isTrue haccept => simp [haccept, Sqlca.success]
  case isFalse hreject =>
      simpa [hreject] using (ses.errors w.log.length).2

/-- COMMIT makes the work permanent exactly when nothing has failed and it
is not refused. Behind it only a BEGIN is sent, outside any
transaction. -/
theorem ocesqlExec_commit (ses : Session) (h : InTxn d p ok w) :
    (ocesqlExec ses .commit w).server.committed
        = (if ok && !ses.refuses w.log.length then p else d)
      ∧ (ocesqlExec ses .commit w).console = w.console
      ∧ ∃ post, (ocesqlExec ses .commit w).log
          = w.log ++ ⟨.commit, !ses.refuses w.log.length, !ok⟩ :: post
        ∧ ∀ e ∈ post, e.query = .begin ∧ e.inAborted = false := by
  have hsend : send ses .commit w = { w with
      server := ⟨if ok && !ses.refuses w.log.length then p else d, .none⟩
      log := w.log ++ [⟨.commit, !ses.refuses w.log.length, !ok⟩]
      sqlca := if (!ses.refuses w.log.length) = true
        then Sqlca.success else (ses.errors w.log.length).1 } := by
    rw [send, h.server]
    simp only [Query.request, Transaction.Server.handle_commit,
      Transaction.Txn.isAborted_working]
  have hcall : ocesqlExec ses .commit w = send ses .commit w
      ∨ ocesqlExec ses .commit w
        = send ses .begin (send ses .commit w) := by
    unfold ocesqlExec
    dsimp only
    rw [if_pos h.connected]
    split
    · exact .inl rfl
    · rw [if_pos (.inl rfl)]
      exact .inr rfl
  cases hcall with
  | inl hfailed =>
      rw [hfailed, hsend]
      exact ⟨rfl, rfl, [], rfl, nofun⟩
  | inr hbegun =>
      rw [hbegun, hsend]
      refine ⟨?_, rfl, [_], List.append_assoc _ _ _, ?_⟩
      · rw [send]
        apply Transaction.Server.handle_begin_committed
      · intro e he
        obtain rfl := List.mem_singleton.mp he
        exact ⟨rfl, rfl⟩

/-- But for code -30 the error paragraph only displays. -/
theorem errorRtn_eq {code : Int → Display} {connection : String}
    (h : w.sqlca.sqlcode ≠ -30) :
    errorRtn ses code connection w
      = w.displayAll (errorTexts code connection w.sqlca) :=
  if_neg h

end Specs

end CobolExercises.Database
