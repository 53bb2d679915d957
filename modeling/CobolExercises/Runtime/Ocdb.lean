/-
The connection layer of the runtime: the list of connections and what is
sent over them (`ocdb.c`, and the parts of `ocpgsql.c` that decide what a
program sees).

# Representation

- libpq and the server behind it are a parameter (`Libpq`): what a
  request comes back with, and what it does to the server, is not
  decided here.
- A `PGconn` is named by the id its connection gets, and a request stands
  for the text `ocpgsql.c` makes of it.
- Connections are found from the head of the list, first match. The ids
  come from a counter; it does not overflow here.
- Allocations succeed, and `OCDB_PG_IGNORE_ERROR` is unset: no savepoints
  are sent.

# Status

A result becomes SQLCODE, SQLSTATE, SQLERRMC and SQLERRD(3)
(`pgSetResultStatus`). Without a connection or without a result the status
is a failure that leaves SQLCA as it is (`setResultStatus`): a program sees
SQLCODE 0 there. A request has no result when libpq answers with NULL
(`Reply`).
-/
import CobolExercises.Database.Esql
import CobolExercises.Database.HostVar
import CobolExercises.Lib.Keyed

namespace CobolExercises.Runtime

open Lib Database

abbrev Text := List Char

-- ================================================================= libpq

/-- What is sent: `OCDB_PGExec`, `OCDB_PGExecParams` and
`OCDB_PGCursor...`. -/
inductive Request where
  | exec (query : Text)
  | execParams (query : Text) (params : List Text)
  | cursorDeclare (cname query : Text)
  | cursorDeclareParams (cname query : Text) (params : List Text)
  | cursorFetchOne (cname : Text)
  | cursorFetchOccurs (cname : Text) (count : Nat)
  | cursorClose (cname : Text)
deriving DecidableEq

/-- `PGresult`. A row has as many values as there are fields. -/
inductive Result where
  | commandOk (cmdTuples : Nat)
  | tuplesOk (fields : Nat) (rows : List (List Text))
  | emptyQuery (message : Line)
  | failed (e : PgError)

namespace Result

/-- `PQcmdTuples`; empty is 0. -/
def cmdTuples : Result → Nat
  | .commandOk n => n
  | .tuplesOk _ rows => rows.length
  | .emptyQuery _ | .failed _ => 0

/-- `PQnfields`. -/
def nfields : Result → Nat
  | .tuplesOk fields _ => fields
  | _ => 0

/-- The rows `PQntuples` counts and `PQgetvalue` reads. -/
def rows : Result → List (List Text)
  | .tuplesOk _ rows => rows
  | _ => []

/-- The server has carried the request out. -/
def isOk : Result → Bool
  | .commandOk _ | .tuplesOk _ _ => true
  | .emptyQuery _ | .failed _ => false

end Result

/-- `PGresult *`: NULL where a request could not be sent. -/
abbrev Reply := Option Result

namespace Reply

/-- The functions of libpq take NULL for an empty result. -/
def rows (reply : Reply) : List (List Text) :=
  reply.elim [] Result.rows

def nfields (reply : Reply) : Nat :=
  reply.elim 0 Result.nfields

/-- There is an answer, and the server has carried the request out. -/
def isOk (reply : Reply) : Bool :=
  reply.elim false Result.isOk

end Reply

/-- libpq and the server: `PQconnectdb` with the answer of `PQstatus`,
`PQstatus` later on, `PQexec` and `PQexecParams`, `PQfinish`. -/
structure Libpq (σ : Type) where
  connectdb : Nat → Text → σ → Bool × σ
  status : Nat → σ → Bool
  exec : Nat → Request → σ → Reply × σ
  finish : Nat → σ → σ

-- ================================================================= state

/-- `resaddr` and `result` of a connection. -/
inductive Res where
  | none
  | dummyOpen
  | result (r : Result)

/-- `resaddr` after a request. -/
def Res.ofReply (reply : Reply) : Res :=
  reply.elim .none .result

/-- `s_conn`. -/
structure Conn where
  id : Nat
  cid : Text
  res : Res

/-- `query_info`, in `prepare_list`. -/
structure Prepare where
  pname : Text
  query : Text
  nParams : Nat

/-- `cursor_list`; `sp` points to the statement with that name, and
`plist` is not initialized in a new one. -/
structure Cursor where
  connid : Nat
  cname : Text
  sp : Option Text
  query : Text
  nParams : Nat
  isOpened : Bool
  tuples : Int
  plist : Option (List SqlVar)

/-- The globals of `ocdb.c` and `ocesql.c`, SQLCA and the program's
storage. `sqlerrd` is `sqlerrd[2]`. -/
structure State (σ : Type) where
  server : σ
  conns : List Conn
  nextConnId : Nat
  cursors : List Cursor
  prepares : List Prepare
  sqlVars : Option (List (SqlVar × Text))
  sqlResVars : Option (List SqlVar)
  table : HostTable
  sqlca : Sqlca
  sqlerrd : Int
  mem : Storage

variable {σ : Type}

/-- Before the first call. -/
def State.initial (server : σ) (mem : Storage) : State σ where
  server := server
  conns := []
  nextConnId := 1
  cursors := []
  prepares := []
  sqlVars := none
  sqlResVars := none
  table := ⟨0, 0, false⟩
  sqlca := ⟨0, "     ", []⟩
  sqlerrd := 0
  mem := mem

-- ================================================================= SQLCA

/-- `sqlca_initialize`. -/
def sqlcaInitialize (st : State σ) : State σ :=
  { st with sqlca := ⟨0, "     ", []⟩, sqlerrd := 0 }

/-- The library's own errors. -/
inductive LibError where
  | notFound
  | outOfMemory
  | tooManyArguments
  | tooFewArguments
  | empty
  | noConn
  | invalidStmt
  | connect
  | unknownPortal
  | portalExists
  | undefined
deriving DecidableEq

/-- `OCDB_PGSetLibErrorStatus`: SQLCODE and SQLSTATE. -/
def LibError.status : LibError → Int × String
  | .notFound => (100, "02000")
  | .outOfMemory => (-12, "YE001")
  | .tooManyArguments => (-201, "07001")
  | .tooFewArguments => (-202, "07002")
  | .empty => (-212, "YE002")
  | .noConn => (-220, "08003")
  | .invalidStmt => (-230, "26000")
  | .connect => (-402, "08001")
  | .unknownPortal => (-602, "34000")
  | .portalExists => (-605, "42P03")
  | .undefined => (-9999, "     ")

/-- `OCDBSetLibErrorStatus`. -/
def setLibErrorStatus (e : LibError) (st : State σ) : State σ :=
  { st with sqlca :=
      { st.sqlca with sqlcode := e.status.1, sqlstate := e.status.2 } }

/-- SQLCA from a result, `OCDB_PGSetResultStatus`. -/
def statusOf (ca : Sqlca) : Result → Sqlca
  | .commandOk _ => { ca with sqlcode := 0, sqlstate := "00000" }
  | .tuplesOk _ [] => { ca with sqlcode := 100, sqlstate := "02000" }
  | .tuplesOk _ (_ :: _) => { ca with sqlcode := 0, sqlstate := "00000" }
  | .emptyQuery message => ⟨-212, "YE002", message.take 70⟩
  | .failed e => ocdbPGSetResultStatus e

/-- `OCDB_PGSetResultStatus`: whether it returns RESULT_SUCCESS. -/
def pgSetResultStatus (r : Result) (st : State σ) : Bool × State σ :=
  let st := { st with sqlca := statusOf st.sqlca r, sqlerrd := r.cmdTuples }
  (decide (0 ≤ st.sqlca.sqlcode), st)

-- ======================================================== the connections

/-- `look_up_conn_lists`. -/
def lookUpConnLists (id : Nat) (st : State σ) : Option Conn :=
  Keyed.lookup Conn.id id st.conns

/-- `OCDBResolveCONNID`. -/
def ocdbResolveConnid (cid : Text) (st : State σ) : Option Nat :=
  (Keyed.lookup Conn.cid cid st.conns).map Conn.id

/-- `create_conn`, appended to the list. -/
def createConn (connname : Text) (st : State σ) : State σ :=
  { st with
    conns := st.conns ++ [⟨st.nextConnId, connname, .none⟩]
    nextConnId := st.nextConnId + 1 }

section Calls

variable (pq : Libpq σ)

/-- `OCDBConnect`, `add_conn_lists`: the id, or -1, which is
OCDB_CONN_FAIL_CONNECT as well as INVALID_CONN_ID. -/
def ocdbConnect (conninfo connname : Text) (st : State σ) :
    Option Nat × State σ :=
  let reply := pq.connectdb st.nextConnId conninfo st.server
  let st := { st with server := reply.2 }
  if reply.1 then
    match Keyed.lookup Conn.cid connname st.conns with
    | some _ =>
        (none, { st with server := pq.finish st.nextConnId st.server })
    | none => (some st.nextConnId, createConn connname st)
  else (none, st)

/-- `OCDBStatus`: OCDB_CONN_CONNECT_OK. -/
def ocdbStatus (id : Nat) (st : State σ) : Bool :=
  match lookUpConnLists id st with
  | none => false
  | some _ => pq.status id st.server

/-- What the functions that send something have in common: the answer
replaces the connection's last result. Without a connection nothing
happens. -/
def ocdbSend (id : Nat) (req : Request) (st : State σ) : State σ :=
  match lookUpConnLists id st with
  | none => st
  | some _ =>
      let reply := pq.exec id req st.server
      { st with
        server := reply.2
        conns := Keyed.modify Conn.id id
          (fun c => { c with res := .ofReply reply.1 }) st.conns }

/-- What comes back from a connection; nothing if it is not there. -/
def ocdbReply (id : Nat) (req : Request) (st : State σ) : Reply :=
  match lookUpConnLists id st with
  | none => none
  | some _ => (pq.exec id req st.server).1

/-- `OCDBExec`. -/
def ocdbExec (id : Nat) (query : Text) (st : State σ) : State σ :=
  ocdbSend pq id (.exec query) st

/-- `OCDBExecParams`. -/
def ocdbExecParams (id : Nat) (query : Text) (params : List Text)
    (st : State σ) : State σ :=
  ocdbSend pq id (.execParams query params) st

/-- `OCDBCursorDeclare`. -/
def ocdbCursorDeclare (id : Nat) (cname query : Text) (st : State σ) :
    State σ :=
  ocdbSend pq id (.cursorDeclare cname query) st

/-- `OCDBCursorDeclareParams`. -/
def ocdbCursorDeclareParams (id : Nat) (cname query : Text)
    (params : List Text) (st : State σ) : State σ :=
  ocdbSend pq id (.cursorDeclareParams cname query params) st

/-- `OCDBCursorFetchOne`, OCDB_READ_NEXT. -/
def ocdbCursorFetchOne (id : Nat) (cname : Text) (st : State σ) : State σ :=
  ocdbSend pq id (.cursorFetchOne cname) st

/-- `OCDBCursorFetchOccurs`, OCDB_READ_NEXT. -/
def ocdbCursorFetchOccurs (id : Nat) (cname : Text) (count : Nat)
    (st : State σ) : State σ :=
  ocdbSend pq id (.cursorFetchOccurs cname count) st

/-- `OCDBCursorClose`. -/
def ocdbCursorClose (id : Nat) (cname : Text) (st : State σ) : State σ :=
  ocdbSend pq id (.cursorClose cname) st

/-- `OCDBFinish`, `free_conn_lists`. -/
def ocdbFinish (id : Nat) (st : State σ) : State σ :=
  match lookUpConnLists id st with
  | none => st
  | some _ =>
      { st with
        server := pq.finish id st.server
        conns := Keyed.erase Conn.id id st.conns }

end Calls

/-- `OCDBCursorOpen`: nothing is sent. -/
def ocdbCursorOpen (id : Nat) (st : State σ) : State σ :=
  { st with
    conns := Keyed.modify Conn.id id (fun c => { c with res := .dummyOpen })
      st.conns }

/-- `OCDBSetResultStatus`: whether it returns RESULT_SUCCESS. -/
def setResultStatus (id : Nat) (st : State σ) : Bool × State σ :=
  match lookUpConnLists id st with
  | none => (false, st)
  | some c =>
      match c.res with
      | .none => (false, st)
      | .dummyOpen => (true, st)
      | .result r => pgSetResultStatus r st

/-- The result a connection holds; nothing is an empty result. -/
def Res.toResult : Res → Result
  | .result r => r
  | .none | .dummyOpen => .commandOk 0

/-- `OCDBNfields`: -1 is OCDB_INVALID_NUMBER. -/
def ocdbNfields (id : Nat) (st : State σ) : Int :=
  match lookUpConnLists id st with
  | none => -1
  | some c => c.res.toResult.nfields

/-- The rows `OCDBNtuples` counts and `OCDBGetvalue` reads. -/
def ocdbRows (id : Nat) (st : State σ) : List (List Text) :=
  match lookUpConnLists id st with
  | none => []
  | some c => c.res.toResult.rows

-- ================================================================ status

section Status

variable {pq : Libpq σ} {st : State σ} {id : Nat} {req : Request} {c : Conn}

/-- The sign of SQLCODE says whether the server has carried a request
out. -/
theorem statusOf_sqlcode_nonneg (ca : Sqlca) (r : Result) :
    0 ≤ (statusOf ca r).sqlcode ↔ r.isOk = true := by
  cases r with
  | commandOk n => simp [statusOf, Result.isOk]
  | tuplesOk fields rows =>
      cases rows with
      | nil => simp [statusOf, Result.isOk]
      | cons row rows => simp [statusOf, Result.isOk]
  | emptyQuery message => simp [statusOf, Result.isOk]
  | failed e =>
      have hle := ocdbPGSetResultStatus_le e
      simp only [statusOf, Result.isOk, Bool.false_eq_true, iff_false]
      omega

/-- What `OCDBSetResultStatus` makes of an answer. -/
def setReplyStatus (reply : Reply) (st : State σ) : Bool × State σ :=
  reply.elim (false, st) fun r => pgSetResultStatus r st

/-- It returns RESULT_SUCCESS exactly for what the server has carried
out. -/
theorem setReplyStatus_fst (reply : Reply) (st : State σ) :
    (setReplyStatus reply st).1 = reply.isOk := by
  cases reply with
  | none => rfl
  | some r =>
      rw [Bool.eq_iff_iff]
      show decide _ = true ↔ _
      rw [decide_eq_true_iff]
      exact statusOf_sqlcode_nonneg st.sqlca r

/-- The status is written into SQLCA and nowhere else. -/
theorem setReplyStatus_snd (reply : Reply) (st : State σ) :
    ∃ ca n, (setReplyStatus reply st).2
      = { st with sqlca := ca, sqlerrd := n } := by
  cases reply with
  | none => exact ⟨st.sqlca, st.sqlerrd, rfl⟩
  | some r => exact ⟨_, _, rfl⟩

/-- Taking over a status changes no connection. -/
theorem lookUpConnLists_setReplyStatus (id : Nat) (reply : Reply)
    (st : State σ) :
    lookUpConnLists id (setReplyStatus reply st).2
      = lookUpConnLists id st := by
  obtain ⟨ca, n, heq⟩ := setReplyStatus_snd reply st
  rw [heq]
  rfl

/-- What is refused has no rows. -/
theorem Reply.rows_of_refused {reply : Reply} (h : reply.isOk = false) :
    reply.rows = [] := by
  cases reply with
  | none => rfl
  | some r =>
      cases r with
      | commandOk | emptyQuery | failed => rfl
      | tuplesOk => cases h

/-- SQLERRD(3) counts the rows of an answer that has some. -/
theorem setReplyStatus_sqlerrd {reply : Reply} (h : reply.rows ≠ []) :
    (setReplyStatus reply st).2.sqlerrd = reply.rows.length := by
  cases reply with
  | none => exact absurd rfl h
  | some r =>
      cases r with
      | tuplesOk => rfl
      | commandOk | emptyQuery | failed => exact absurd rfl h

/-- Rows come with SQLCODE 0. -/
theorem setReplyStatus_sqlcode_of_rows {reply : Reply}
    (h : reply.rows ≠ []) :
    (setReplyStatus reply st).2.sqlca.sqlcode = 0 := by
  cases reply with
  | none => exact absurd rfl h
  | some r =>
      cases r with
      | tuplesOk fields rows =>
          cases rows with
          | nil => exact absurd rfl h
          | cons row rows => rfl
      | commandOk | emptyQuery | failed => exact absurd rfl h

/-- SQLCODE behind an answer: negative if it is a refusal, and what it was
if there is none. -/
theorem setReplyStatus_sqlcode_neg (reply : Reply) (st : State σ)
    (h : 0 ≤ st.sqlca.sqlcode) :
    (setReplyStatus reply st).2.sqlca.sqlcode < 0
      ↔ ∃ r, reply = some r ∧ r.isOk = false := by
  cases reply with
  | none =>
      refine iff_of_false ?_ nofun
      exact Int.not_lt.mpr h
  | some r =>
      have hsign := statusOf_sqlcode_nonneg st.sqlca r
      constructor
      · intro hneg
        refine ⟨r, rfl, ?_⟩
        rw [← Bool.not_eq_true, ← hsign]
        exact Int.not_le.mpr hneg
      · rintro ⟨_, ⟨⟩, hrefused⟩
        rw [← Bool.not_eq_true, ← hsign] at hrefused
        exact Int.not_le.mp hrefused

/-- The connection after a request holds its result. -/
theorem lookUpConnLists_ocdbSend (h : lookUpConnLists id st = some c) :
    lookUpConnLists id (ocdbSend pq id req st)
      = some { c with res := .ofReply (pq.exec id req st.server).1 } := by
  unfold ocdbSend
  rw [h]
  exact Keyed.lookup_modify_self (fun _ => rfl) h

/-- Without a connection there is no answer. -/
theorem ocdbReply_of_none (h : lookUpConnLists id st = none) :
    ocdbReply pq id req st = none := by
  unfold ocdbReply
  rw [h]

/-- Sending and looking at the status, in one. -/
theorem setResultStatus_ocdbSend (h : lookUpConnLists id st = some c) :
    setResultStatus id (ocdbSend pq id req st)
      = setReplyStatus (pq.exec id req st.server).1
          (ocdbSend pq id req st) := by
  unfold setResultStatus
  rw [lookUpConnLists_ocdbSend h]
  cases (pq.exec id req st.server).1 with
  | none => rfl
  | some r => rfl

/-- A NULL result reads as one without rows. -/
theorem Res.toResult_ofReply_rows (reply : Reply) :
    (ofReply reply).toResult.rows = reply.rows := by
  cases reply with
  | none => rfl
  | some r => rfl

/-- And without columns. -/
theorem Res.toResult_ofReply_nfields (reply : Reply) :
    (ofReply reply).toResult.nfields = reply.nfields := by
  cases reply with
  | none => rfl
  | some r => rfl

/-- The rows a connection holds are those of its last request. -/
theorem ocdbRows_ocdbSend (h : lookUpConnLists id st = some c) :
    ocdbRows id (ocdbSend pq id req st)
      = (pq.exec id req st.server).1.rows := by
  unfold ocdbRows
  rw [lookUpConnLists_ocdbSend h]
  exact Res.toResult_ofReply_rows _

/-- The columns of the answer that was just kept. -/
theorem ocdbNfields_ocdbSend (h : lookUpConnLists id st = some c) :
    ocdbNfields id (ocdbSend pq id req st)
      = (pq.exec id req st.server).1.nfields := by
  unfold ocdbNfields
  rw [lookUpConnLists_ocdbSend h]
  exact congrArg Int.ofNat (Res.toResult_ofReply_nfields _)

/-- The request goes out and its answer is kept with the connection. -/
theorem ocdbSend_of_some (h : lookUpConnLists id st = some c) :
    ocdbSend pq id req st = { st with
      server := (pq.exec id req st.server).2
      conns := Keyed.modify Conn.id id
        (fun c => { c with res := .ofReply (pq.exec id req st.server).1 })
        st.conns } := by
  unfold ocdbSend
  rw [h]

/-- Without a connection nothing is sent, and the status is a failure. -/
theorem ocdbSend_of_none (h : lookUpConnLists id st = none) :
    ocdbSend pq id req st = st := by
  unfold ocdbSend
  rw [h]

/-- Without a connection SQLCA stays as it was. -/
theorem setResultStatus_of_none (h : lookUpConnLists id st = none) :
    setResultStatus id st = (false, st) := by
  unfold setResultStatus
  rw [h]

/-- The dummy OPEN always works. -/
theorem setResultStatus_ocdbCursorOpen (h : lookUpConnLists id st = some c) :
    setResultStatus id (ocdbCursorOpen id st)
      = (true, ocdbCursorOpen id st) := by
  have hlook : lookUpConnLists id (ocdbCursorOpen id st)
      = some { c with res := .dummyOpen } :=
    Keyed.lookup_modify_self (fun _ => rfl) h
  unfold setResultStatus
  rw [hlook]

end Status

end CobolExercises.Runtime
