/-
The calls of the runtime (`ocesql.c`), as the precompiled programs make
them.

# A call

A call finds its connection by name (`withConnection`) or its cursor by
name, and sends what it has to send; the return values, which no program
looks at, are left out. `OCESQLID...` and the calls without a connection
name are one call here: the name is the caller's, cut at the first blank,
or OCDB_DEFAULT_DBNAME. How the connection text is put together is not
part of this module (`OCESQLConnect`, `OCESQLConnectInformal` and
`OCESQLConnectShort` differ in nothing else).

`none` is behaviour the source leaves undefined: a host variable that
cannot be converted inside its buffers, an array of parameters that is not
filled or too small, a FETCH of 0 rows, and a DECLARE with a text for a
cursor that has only been declared for prepared statements before
(`add_cursor_list` frees its `plist`, which nothing has set).

# Bookkeeping

A cursor is looked up by its name alone; whether it is open is what the
runtime has noted (`isOpened`), and COMMIT and ROLLBACK clear that for
every cursor of their connection.
-/
import CobolExercises.Runtime.Ocdb
import CobolExercises.Runtime.Prepare

namespace CobolExercises.Runtime

open Lib Database

variable {σ : Type} (pq : Libpq σ)

def beginText : Text := "BEGIN".toList

def commitText : Text := "COMMIT".toList

def rollbackText : Text := "ROLLBACK".toList

/-- OCESQL_DEFAULT_DBNAME. -/
def defaultDbname : Text := "OCDB_DEFAULT_DBNAME".toList

/-- `get_str_without_after_space`, of the bytes of a buffer. -/
def getStrWithoutAfterSpace (target : Text) : Text :=
  target.takeWhile fun c => c ≠ '\x00' && c ≠ ' '

-- =========================================================== connections

/-- `_ocesqlConnectMain`, from the connection text on. The branch for
INVALID_CONN_ID is never taken: it is the same number as
OCDB_CONN_FAIL_CONNECT. -/
def ocesqlConnectNew (connstr conndbname : Text) (st : State σ) : State σ :=
  match ocdbConnect pq connstr conndbname st with
  | (none, st) => setLibErrorStatus .connect st
  | (some id, st) => (setResultStatus id (ocdbExec pq id beginText st)).2

/-- `_ocesqlConnectMain`: a connection that is there and up is kept, one
that is down is replaced. -/
def ocesqlConnectMain (connstr conndbname : Text) (st : State σ) : State σ :=
  let st := sqlcaInitialize st
  match ocdbResolveConnid conndbname st with
  | some id =>
      if ocdbStatus pq id st then st
      else ocesqlConnectNew pq connstr conndbname (ocdbFinish pq id st)
  | none => ocesqlConnectNew pq connstr conndbname st

/-- `OCESQLIDConnect...`: an empty name is an error, and the code given
for it is none of the library's. -/
def ocesqlIdConnect (atdb connstr : Text) (st : State σ) : State σ :=
  if getStrWithoutAfterSpace atdb = [] then setLibErrorStatus .undefined st
  else ocesqlConnectMain pq connstr (getStrWithoutAfterSpace atdb) st

/-- `_ocesqlResolveCONNID` and what every call does if it fails. -/
def withConnection (atdb : Text) (call : Nat → State σ → Option (State σ))
    (st : State σ) : Option (State σ) :=
  match ocdbResolveConnid (getStrWithoutAfterSpace atdb) st with
  | none => some (setLibErrorStatus .noConn (setLibErrorStatus .empty st))
  | some id => call id st

-- ============================================================= statements

/-- `clear_cursor_list`. -/
def clearCursorList (id : Nat) (st : State σ) : State σ :=
  { st with cursors := st.cursors.map fun c =>
      if c.connid = id then { c with isOpened := false } else c }

/-- The end of `_ocesqlExec` and `_ocesqlExecParams`: behind an accepted
COMMIT or ROLLBACK the next transaction begins. -/
def afterExec (id : Nat) (query : Text) (st : State σ) : State σ :=
  let status := setResultStatus id st
  if status.1 then
    if query = commitText ∨ query = rollbackText then
      (setResultStatus id
        (ocdbExec pq id beginText (clearCursorList id status.2))).2
    else status.2
  else status.2

/-- `_ocesqlExec`. -/
def ocesqlExec (id : Nat) (query : Text) (st : State σ) : State σ :=
  let st := sqlcaInitialize st
  if query = [] then setLibErrorStatus .empty st
  else afterExec pq id query (ocdbExec pq id query st)

/-- The host variables of the statement and what they were when they were
set. -/
def State.params (st : State σ) : List (SqlVar × Text) :=
  st.sqlVars.getD []

/-- `_ocesqlExecParams`. -/
def ocesqlExecParams (id : Nat) (query : Text) (nParams : Nat)
    (st : State σ) : State σ :=
  let st := sqlcaInitialize st
  if query = [] ∨ nParams = 0 then setLibErrorStatus .empty st
  else if nParams < st.params.length then
    setLibErrorStatus .tooManyArguments st
  else if st.params.length < nParams then
    setLibErrorStatus .tooFewArguments st
  else
    afterExec pq id query
      (ocdbExecParams pq id query (st.params.map Prod.snd) st)

/-- The loop of `_ocesqlExecParamsOccurs` over the rows of the host
table. -/
def execOccursLoop (id : Nat) (query : Text) :
    List Nat → State σ → Option (State σ)
  | [], st => some st
  | index :: rest, st => do
      let vars := st.params.map Prod.fst
      let texts ← vars.mapM fun sv => createRealdata st.table st.mem sv index
      let st := { st with sqlVars := some (vars.zip texts) }
      let status := setResultStatus id (ocdbExecParams pq id query texts st)
      if status.1 then execOccursLoop id query rest status.2
      else some status.2

/-- `_ocesqlExecParamsOccurs`. -/
def ocesqlExecParamsOccurs (id : Nat) (query : Text) (nParams : Nat)
    (st : State σ) : Option (State σ) :=
  let st := sqlcaInitialize st
  if query = [] ∨ nParams = 0 ∨ 500 < st.table.occursIter then
    some (setLibErrorStatus .empty st)
  else if st.params.length = nParams ∨ st.table.occursIter = 0 then
    execOccursLoop pq id query (List.range st.table.occursIter) st
  else none

-- ===================================================== prepared statements

/-- `get_prepare_from_list`. -/
def getPrepareFromList (sname : Text) (st : State σ) : Option Prepare :=
  Keyed.lookup Prepare.pname sname st.prepares

/-- `OCESQLPrepare`, `add_prepare_list`. -/
def ocesqlPrepare (sname query : Text) (st : State σ) : State σ :=
  let replaced := getStrReplaceHostvalue query
  { st with
    prepares := Keyed.put Prepare.pname sname ⟨sname, [], 0⟩
      (fun p => { p with query := replaced.1, nParams := replaced.2 })
      st.prepares }

/-- `_ocesqlExecPrepare`: what BEGIN comes back with is not looked at. -/
def ocesqlExecPrepare (id : Nat) (sname : Text) (nParams : Nat)
    (st : State σ) : Option (State σ) :=
  let st := sqlcaInitialize st
  match getPrepareFromList sname st with
  | none => some (setLibErrorStatus .invalidStmt st)
  | some prepare =>
      if prepare.query = [] ∨ nParams ≠ prepare.nParams then
        some (setLibErrorStatus .empty st)
      else if 0 < nParams ∧ st.params.length ≠ nParams then none
      else
        let st :=
          if 0 < nParams then
            ocdbExecParams pq id prepare.query (st.params.map Prod.snd) st
          else ocdbExec pq id prepare.query st
        let status := setResultStatus id st
        if status.1 ∧ (prepare.query = commitText
            ∨ prepare.query = rollbackText) then
          some (ocdbExec pq id beginText (clearCursorList id status.2))
        else some status.2

-- ======================================================== declared cursors

/-- `get_cursor_from_list`. -/
def getCursorFromList (cname : Text) (st : State σ) : Option Cursor :=
  Keyed.lookup Cursor.cname cname st.cursors

/-- `new_cursor_list`. -/
def newCursor (cname : Text) : Cursor where
  connid := 0
  cname := cname
  sp := none
  query := []
  nParams := 0
  isOpened := false
  tuples := 0
  plist := none

/-- The name is new, or its cursor is not open. -/
def cursorIsFree (cname : Text) (st : State σ) : Bool :=
  match getCursorFromList cname st with
  | some cursor => !cursor.isOpened
  | none => true

/-- What `add_cursor_list` and `add_cursor_list_with_prepare` have in
common: the cursor with the name, or a new one, is changed by `f`. -/
def registerCursor (cname : Text) (f : Cursor → Cursor) (st : State σ) :
    State σ :=
  { st with
    cursors := Keyed.put Cursor.cname cname (newCursor cname) f st.cursors }

/-- The list of parameters that `add_cursor_list` frees has been set. -/
def plistIsSet (cname : Text) (st : State σ) : Bool :=
  match getCursorFromList cname st with
  | some cursor => cursor.plist.isSome
  | none => true

/-- `add_cursor_list`: `sp` stays. -/
def addCursorList (id : Nat) (cname query : Text) (nParams : Nat)
    (st : State σ) : Option (State σ) :=
  if plistIsSet cname st then
    some (registerCursor cname (fun c => { c with
      connid := id, query := query, nParams := nParams, isOpened := false,
      tuples := 0,
      plist := some (if 0 < nParams then st.params.map Prod.fst else []) }) st)
  else none

/-- `add_cursor_list_with_prepare`: `query`, `nParams` and `plist` stay. -/
def addCursorListWithPrepare (id : Nat) (cname sname : Text)
    (st : State σ) : State σ :=
  registerCursor cname (fun c => { c with
    connid := id, sp := some sname, isOpened := false, tuples := 0 }) st

/-- `_ocesqlCursorDeclare`. With parameters, but without a host variable
list, the cursor is registered and memory is reported to be short. -/
def ocesqlCursorDeclare (id : Nat) (cname query : Text) (nParams : Nat)
    (st : State σ) : Option (State σ) :=
  let st := sqlcaInitialize st
  if cname = [] ∨ query = [] then some (setLibErrorStatus .empty st)
  else if cursorIsFree cname st then
    (addCursorList id cname query nParams st).map fun st' =>
      if 0 < nParams ∧ st.sqlVars = none then
        setLibErrorStatus .outOfMemory st'
      else st'
  else some (setLibErrorStatus .portalExists st)

/-- `_ocesqlPreparedCursorDeclare`. -/
def ocesqlPreparedCursorDeclare (id : Nat) (cname sname : Text)
    (st : State σ) : State σ :=
  let st := sqlcaInitialize st
  if cname = [] ∨ sname = [] then setLibErrorStatus .empty st
  else
    match getPrepareFromList sname st with
    | none => setLibErrorStatus .invalidStmt st
    | some _ =>
        if cursorIsFree cname st then
          addCursorListWithPrepare id cname sname st
        else setLibErrorStatus .portalExists st

/-- `cursor->...` of the cursor with that name. -/
def setCursor (cname : Text) (f : Cursor → Cursor) (st : State σ) :
    State σ :=
  { st with cursors := Keyed.modify Cursor.cname cname f st.cursors }

def setOpened (cname : Text) (opened : Bool) (st : State σ) : State σ :=
  setCursor cname (fun c => { c with isOpened := opened }) st

-- ========================================================== open and close

/-- An open cursor is closed first: whether that works, and what is left
of it. -/
def closeOpened (cursor : Cursor) (st : State σ) : Bool × State σ :=
  if cursor.isOpened then
    let status := setResultStatus cursor.connid
      (ocdbCursorClose pq cursor.connid cursor.cname st)
    if status.1 then (true, setOpened cursor.cname false status.2)
    else (false, status.2)
  else (true, st)

/-- The text of the prepared statement a cursor points to. -/
def preparedText (sname : Text) (st : State σ) : Text :=
  match getPrepareFromList sname st with
  | some prepare => prepare.query
  | none => []

/-- DECLARE for a cursor: with parameters its own text and what the host
variables hold now, otherwise the prepared statement if there is one,
otherwise its own text. -/
def declareOpened (cursor : Cursor) (st : State σ) : Option (State σ) :=
  if 0 < cursor.nParams then
    if (cursor.plist.getD []).length < cursor.nParams then none
    else do
      let texts ← ((cursor.plist.getD []).take cursor.nParams).mapM fun sv =>
        createRealdata st.table st.mem sv 0
      some (ocdbCursorDeclareParams pq cursor.connid cursor.cname
        cursor.query texts st)
  else
    match cursor.sp with
    | some sname =>
        some (ocdbCursorDeclare pq cursor.connid cursor.cname
          (preparedText sname st) st)
    | none =>
        some (ocdbCursorDeclare pq cursor.connid cursor.cname cursor.query st)

/-- The end of both OPENs: the status of DECLARE, the dummy OPEN, and
`isOpened = 1`. -/
def finishOpen (cursor : Cursor) (st : State σ) : State σ :=
  let status := setResultStatus cursor.connid st
  if status.1 then
    let status := setResultStatus cursor.connid
      (ocdbCursorOpen cursor.connid status.2)
    if status.1 then setOpened cursor.cname true status.2 else status.2
  else status.2

/-- `OCESQLCursorOpen`. -/
def ocesqlCursorOpen (cname : Text) (st : State σ) : Option (State σ) :=
  let st := sqlcaInitialize st
  if cname = [] then some (setLibErrorStatus .empty st)
  else
    match getCursorFromList cname st with
    | none => some (setLibErrorStatus .unknownPortal st)
    | some cursor =>
        let closed := closeOpened pq cursor st
        if closed.1 then
          (declareOpened pq cursor closed.2).map (finishOpen cursor)
        else some closed.2

/-- A text put into SQLERRMC. -/
def setErrorMessage (message : Line) (st : State σ) : State σ :=
  { st with sqlca := { st.sqlca with sqlerrmc := message } }

/-- `OCDBResultErrorMessage` put into SQLERRMC: the message of a result is
there already, and OCDB_RES_NOCONNECT_ERRORMSG stands for a connection
that is gone. -/
def setResultErrorMessage (id : Nat) (st : State σ) : State σ :=
  match lookUpConnLists id st with
  | none => setErrorMessage "Connection is not opened.".toList st
  | some _ => st

def parametersMessage : Line :=
  "A number of parameters and prepared sql parameters is unmatch.".toList

/-- `OCESQLCursorOpenParams`. -/
def ocesqlCursorOpenParams (cname : Text) (nParams : Nat) (st : State σ) :
    Option (State σ) :=
  let st := sqlcaInitialize st
  if cname = [] then some (setLibErrorStatus .empty st)
  else
    match getCursorFromList cname st with
    | none => some (setLibErrorStatus .unknownPortal st)
    | some cursor =>
        match cursor.sp.bind fun sname => getPrepareFromList sname st with
        | none => some (setLibErrorStatus .invalidStmt st)
        | some prepare =>
            if prepare.nParams ≠ nParams then
              some (setErrorMessage parametersMessage
                (setLibErrorStatus .empty st))
            else
              let closed := closeOpened pq cursor st
              if closed.1 then
                if closed.2.params.length ≠ nParams then none
                else
                  some (finishOpen cursor
                    (ocdbCursorDeclareParams pq cursor.connid cursor.cname
                      prepare.query (closed.2.params.map Prod.snd) closed.2))
              else some (setResultErrorMessage cursor.connid closed.2)

/-- `OCESQLCursorClose`. -/
def ocesqlCursorClose (cname : Text) (st : State σ) : State σ :=
  let st := sqlcaInitialize st
  if cname = [] then setLibErrorStatus .empty st
  else
    match getCursorFromList cname st with
    | none => setLibErrorStatus .unknownPortal st
    | some cursor => (closeOpened pq cursor st).2

section Open

variable {pq} {cursor : Cursor} {c : Conn} {req : Request} {st : State σ}

theorem closeOpened_of_closed (h : cursor.isOpened = false) :
    closeOpened pq cursor st = (true, st) := by
  unfold closeOpened
  rw [h, if_neg Bool.false_ne_true]

theorem closeOpened_of_none (h : cursor.isOpened = true)
    (hconn : lookUpConnLists cursor.connid st = none) :
    closeOpened pq cursor st = (false, st) := by
  unfold closeOpened
  rw [if_pos h, ocdbCursorClose, ocdbSend_of_none hconn,
    setResultStatus_of_none hconn]
  rfl

/-- CLOSE of an open cursor over its connection. -/
theorem closeOpened_of_some (h : cursor.isOpened = true)
    (hconn : lookUpConnLists cursor.connid st = some c) {r : Reply}
    {sent : State σ}
    (hr : r = (pq.exec cursor.connid (.cursorClose cursor.cname)
      st.server).1)
    (hsent : sent = (setReplyStatus r (ocdbSend pq cursor.connid
      (.cursorClose cursor.cname) st)).2) :
    closeOpened pq cursor st
      = (r.isOk, if r.isOk then setOpened cursor.cname false sent
          else sent) := by
  unfold closeOpened
  rw [if_pos h, ocdbCursorClose, setResultStatus_ocdbSend hconn, ← hr]
  dsimp only
  rw [setReplyStatus_fst, ← hsent]
  cases r.isOk with
  | true => rfl
  | false => rfl

theorem finishOpen_of_none
    (hconn : lookUpConnLists cursor.connid st = none) :
    finishOpen cursor st = st := by
  unfold finishOpen
  rw [setResultStatus_of_none hconn]
  rfl

/-- What an accepted DECLARE leads to, and a refused one. -/
theorem finishOpen_of_some
    (hconn : lookUpConnLists cursor.connid st = some c) {r : Reply}
    {sent : State σ} (hr : r = (pq.exec cursor.connid req st.server).1)
    (hsent : sent = (setReplyStatus r
      (ocdbSend pq cursor.connid req st)).2) :
    finishOpen cursor (ocdbSend pq cursor.connid req st)
      = if r.isOk then
          setOpened cursor.cname true (ocdbCursorOpen cursor.connid sent)
        else sent := by
  have hlook : lookUpConnLists cursor.connid sent
      = some { c with res := .ofReply r } := by
    rw [hsent, hr, lookUpConnLists_setReplyStatus]
    exact lookUpConnLists_ocdbSend hconn
  unfold finishOpen
  rw [setResultStatus_ocdbSend hconn, ← hr]
  dsimp only
  rw [setReplyStatus_fst, ← hsent, setResultStatus_ocdbCursorOpen hlook,
    if_pos rfl]

end Open

-- ================================================================== fetch

/-- The result variables. -/
def State.results (st : State σ) : List SqlVar := st.sqlResVars.getD []

/-- One row into the result variables, at subscript `index`; what is left
over on either side is left alone. -/
def storeRow (table : HostTable) (index : Nat) :
    List SqlVar → List Text → Storage → Option Storage
  | sv :: vars, retstr :: row, mem =>
      (createCoboldata table sv index retstr mem).bind
        (storeRow table index vars row)
  | _, _, mem => some mem

/-- The rows from subscript `index` on. -/
def storeRows (table : HostTable) (vars : List SqlVar) :
    Nat → List (List Text) → Storage → Option Storage
  | _, [], mem => some mem
  | index, row :: rows, mem =>
      (storeRow table index vars row mem).bind
        (storeRows table vars (index + 1) rows)

/-- Low-values in the rows of a host table that get no data. -/
def storeLowvalues (table : HostTable) (vars : List SqlVar)
    (indices : List Nat) (mem : Storage) : Storage :=
  indices.foldl (fun mem index =>
    vars.foldl (fun mem sv => createCoboldataLowvalue table sv index mem) mem)
    mem

/-- The rows of a result in the host table, and low-values behind them. -/
def storeTable (rows : List (List Text)) (st : State σ) :
    Option (State σ) :=
  let rows := rows.take st.table.occursIter
  (storeRows st.table st.results 0 rows st.mem).map fun mem =>
    { st with
      mem := storeLowvalues st.table st.results
        ((List.range st.table.occursIter).drop rows.length) mem }

/-- The first row of a result in the result variables. -/
def storeFirst (row : List Text) (st : State σ) : Option (State σ) :=
  (storeRow st.table 0 st.results row st.mem).map fun mem =>
    { st with mem := mem }

def resultsMessage : Line :=
  "A number of parameters and results is unmatch.".toList

/-- `cursor->tuples += n`. -/
def addTuples (cname : Text) (n : Int) (st : State σ) : State σ :=
  setCursor cname (fun c => { c with tuples := c.tuples + n }) st

/-- `OCESQLCursorFetchOne`. -/
def ocesqlCursorFetchOne (cname : Text) (st : State σ) :
    Option (State σ) :=
  let st := sqlcaInitialize st
  if cname = [] then some (setLibErrorStatus .empty st)
  else
    match getCursorFromList cname st with
    | none => some (setLibErrorStatus .unknownPortal st)
    | some cursor =>
        let id := cursor.connid
        let status := setResultStatus id (ocdbCursorFetchOne pq id cname st)
        let st := status.2
        if status.1 then
          if ocdbNfields id st ≠ st.results.length then
            some (setErrorMessage resultsMessage
              (setLibErrorStatus .empty st))
          else
            match ocdbRows id st with
            | [] =>
                some { setLibErrorStatus .notFound st with
                  sqlerrd := cursor.tuples }
            | row :: _ => do
                let st ← storeFirst row st
                some { addTuples cname st.sqlerrd st with
                  sqlerrd := cursor.tuples + st.sqlerrd }
        else some st

/-- `OCESQLCursorFetchOccurs`: the status of the FETCH is not looked
at. -/
def ocesqlCursorFetchOccurs (cname : Text) (st : State σ) :
    Option (State σ) :=
  let st := sqlcaInitialize st
  if cname = [] ∨ 500 < st.table.occursIter then
    some (setLibErrorStatus .empty st)
  else
    match getCursorFromList cname st with
    | none => some (setLibErrorStatus .unknownPortal st)
    | some cursor =>
        let id := cursor.connid
        if st.table.occursIter = 0 ∧ (lookUpConnLists id st).isSome then none
        else
          let st := ocdbCursorFetchOccurs pq id cname st.table.occursIter st
          if ocdbNfields id st ≠ st.results.length then
            some (setErrorMessage resultsMessage
              (setLibErrorStatus .empty st))
          else
            match ocdbRows id st with
            | [] => some (setLibErrorStatus .notFound st)
            | row :: rows => do
                let st ← storeTable (row :: rows) st
                let n := min (rows.length + 1) st.table.occursIter
                some { addTuples cname n st with
                  sqlerrd := cursor.tuples + n }

section Fetch

variable {pq} {cname : Text} {cursor : Cursor} {c : Conn} {st st' : State σ}

/-- FETCH of a cursor whose connection is gone. -/
theorem ocesqlCursorFetchOne_of_none (hname : cname ≠ [])
    (hcursor : getCursorFromList cname st = some cursor)
    (hconn : lookUpConnLists cursor.connid st = none) :
    ocesqlCursorFetchOne pq cname st = some (sqlcaInitialize st) := by
  have hcursor' : getCursorFromList cname (sqlcaInitialize st)
      = some cursor := hcursor
  have hconn' : lookUpConnLists cursor.connid (sqlcaInitialize st)
      = none := hconn
  unfold ocesqlCursorFetchOne
  rw [if_neg hname, hcursor']
  dsimp only
  rw [ocdbCursorFetchOne, ocdbSend_of_none hconn',
    setResultStatus_of_none hconn', if_neg Bool.false_ne_true]

/-- FETCH of a cursor whose connection is there, by what the server
answers. -/
theorem ocesqlCursorFetchOne_cases (hname : cname ≠ [])
    (hcursor : getCursorFromList cname st = some cursor)
    (hconn : lookUpConnLists cursor.connid st = some c)
    (h : ocesqlCursorFetchOne pq cname st = some st') {r : Reply}
    {sent : State σ}
    (hr : r = (pq.exec cursor.connid (.cursorFetchOne cname) st.server).1)
    (hsent : sent = (setReplyStatus r (ocdbCursorFetchOne pq
      cursor.connid cname (sqlcaInitialize st))).2) :
    r.isOk = false ∧ st' = sent
      ∨ st' = setErrorMessage resultsMessage (setLibErrorStatus .empty sent)
      ∨ r.rows = []
        ∧ st' = { setLibErrorStatus .notFound sent with
          sqlerrd := cursor.tuples }
      ∨ ∃ row rest mem, r.rows = row :: rest
        ∧ r.nfields = st.results.length
        ∧ storeRow st.table 0 st.results row st.mem = some mem
        ∧ st' = { addTuples cname r.rows.length { sent with mem := mem } with
          sqlerrd := cursor.tuples + r.rows.length } := by
  have hcursor' : getCursorFromList cname (sqlcaInitialize st)
      = some cursor := hcursor
  have hconn' : lookUpConnLists cursor.connid (sqlcaInitialize st)
      = some c := hconn
  have hexec : pq.exec cursor.connid (.cursorFetchOne cname)
      (sqlcaInitialize st).server
      = pq.exec cursor.connid (.cursorFetchOne cname) st.server := rfl
  -- of the status only SQLCA is left behind
  obtain ⟨ca, n, hstatus⟩ := setReplyStatus_snd r
    (ocdbCursorFetchOne pq cursor.connid cname (sqlcaInitialize st))
  rw [← hsent] at hstatus
  have hrows : ocdbRows cursor.connid sent = r.rows := by
    rw [hstatus, hr]
    exact ocdbRows_ocdbSend hconn'
  have hfields : ocdbNfields cursor.connid sent = r.nfields := by
    rw [hstatus, hr]
    exact ocdbNfields_ocdbSend hconn'
  have hsame : sent.results = st.results ∧ sent.table = st.table
      ∧ sent.mem = st.mem := by
    rw [hstatus, ocdbCursorFetchOne, ocdbSend_of_some hconn']
    exact ⟨rfl, rfl, rfl⟩
  unfold ocesqlCursorFetchOne at h
  rw [if_neg hname, hcursor'] at h
  dsimp only at h
  rw [ocdbCursorFetchOne, setResultStatus_ocdbSend hconn', hexec, ← hr,
    setReplyStatus_fst, ← ocdbCursorFetchOne, ← hsent, hrows,
    hfields] at h
  -- refused, then the number of columns, then the rows
  split at h
  case isFalse hrefused =>
      refine .inl ⟨?_, (Option.some.inj h).symm⟩
      rw [Bool.not_eq_true] at hrefused
      exact hrefused
  case isTrue =>
      split at h
      case isTrue => exact .inr (.inl (Option.some.inj h).symm)
      case isFalse hmatch =>
          refine .inr (.inr ?_)
          split at h
          case h_1 hnil => exact .inl ⟨hnil, (Option.some.inj h).symm⟩
          case h_2 row rest hrow =>
              rw [Option.bind_eq_bind, Option.bind_eq_some_iff] at h
              obtain ⟨st₂, hstore, h⟩ := h
              obtain ⟨mem, hmem, rfl⟩ := Option.map_eq_some_iff.mp hstore
              -- the status counts the rows of this answer alone
              have herrd : sent.sqlerrd = r.rows.length := by
                rw [hsent]
                exact setReplyStatus_sqlerrd
                  (hrow ▸ List.cons_ne_nil row rest)
              refine .inr ⟨row, rest, mem, hrow, ?_, ?_, ?_⟩
              · rw [not_not, hsame.1] at hmatch
                exact Int.ofNat.inj hmatch
              · rw [hsame.1, hsame.2.1, hsame.2.2] at hmem
                exact hmem
              · rw [← herrd]
                exact (Option.some.inj h).symm

/-- FETCH into a host table without a connection: there are no columns. -/
theorem ocesqlCursorFetchOccurs_of_none (hname : cname ≠ [])
    (hcount : st.table.occursIter ≤ 500)
    (hcursor : getCursorFromList cname st = some cursor)
    (hconn : lookUpConnLists cursor.connid st = none) :
    ocesqlCursorFetchOccurs pq cname st
      = some (setErrorMessage resultsMessage
          (setLibErrorStatus .empty (sqlcaInitialize st))) := by
  have hcursor' : getCursorFromList cname (sqlcaInitialize st)
      = some cursor := hcursor
  have hconn' : lookUpConnLists cursor.connid (sqlcaInitialize st)
      = none := hconn
  have hfields : ocdbNfields cursor.connid (sqlcaInitialize st) = -1 := by
    unfold ocdbNfields
    rw [hconn']
  have hguard : ¬(cname = [] ∨ 500 < (sqlcaInitialize st).table.occursIter) :=
    not_or.mpr ⟨hname, Nat.not_lt.mpr hcount⟩
  unfold ocesqlCursorFetchOccurs
  rw [if_neg hguard, hcursor']
  dsimp only
  rw [hconn', Option.isSome_none, if_neg (fun h => nomatch h.2),
    ocdbCursorFetchOccurs, ocdbSend_of_none hconn', hfields, if_pos]
  omega

/-- FETCH into a host table over a connection, by what the server
answers. -/
theorem ocesqlCursorFetchOccurs_cases (hname : cname ≠ [])
    (hcount : st.table.occursIter ≤ 500)
    (hcursor : getCursorFromList cname st = some cursor)
    (hconn : lookUpConnLists cursor.connid st = some c)
    (h : ocesqlCursorFetchOccurs pq cname st = some st') {r : Reply}
    {sent : State σ}
    (hr : r = (pq.exec cursor.connid
      (.cursorFetchOccurs cname st.table.occursIter) st.server).1)
    (hsent : sent = ocdbCursorFetchOccurs pq cursor.connid cname
      st.table.occursIter (sqlcaInitialize st)) :
    st' = setErrorMessage resultsMessage (setLibErrorStatus .empty sent)
      ∨ r.rows = [] ∧ st' = setLibErrorStatus .notFound sent
      ∨ ∃ st₂, r.rows ≠ [] ∧ r.nfields = st.results.length
        ∧ storeTable r.rows sent = some st₂
        ∧ st' = { addTuples cname
            (min r.rows.length st.table.occursIter : Nat) st₂ with
          sqlerrd := cursor.tuples
            + (min r.rows.length st.table.occursIter : Nat) } := by
  have hcursor' : getCursorFromList cname (sqlcaInitialize st)
      = some cursor := hcursor
  have hconn' : lookUpConnLists cursor.connid (sqlcaInitialize st)
      = some c := hconn
  have hguard : ¬(cname = [] ∨ 500 < (sqlcaInitialize st).table.occursIter) :=
    not_or.mpr ⟨hname, Nat.not_lt.mpr hcount⟩
  have hrows : ocdbRows cursor.connid sent = r.rows := by
    rw [hsent, hr]
    exact ocdbRows_ocdbSend hconn'
  have hfields : ocdbNfields cursor.connid sent = r.nfields := by
    rw [hsent, hr]
    exact ocdbNfields_ocdbSend hconn'
  have htable : (sqlcaInitialize st).table = st.table := rfl
  unfold ocesqlCursorFetchOccurs at h
  rw [if_neg hguard, hcursor'] at h
  dsimp only at h
  split at h
  -- the answer is not looked at, so only its columns and rows decide
  case isTrue => cases h
  case isFalse =>
      rw [htable, ← hsent, hrows, hfields] at h
      have hsame : sent.results = st.results ∧ sent.table = st.table := by
        rw [hsent, ocdbCursorFetchOccurs, ocdbSend_of_some hconn']
        exact ⟨rfl, rfl⟩
      split at h
      case isTrue => exact .inl (Option.some.inj h).symm
      case isFalse hmatch =>
          refine .inr ?_
          rw [not_not, hsame.1] at hmatch
          split at h
          case h_1 hnil => exact .inl ⟨hnil, (Option.some.inj h).symm⟩
          case h_2 row rest hrow =>
              rw [Option.bind_eq_bind, Option.bind_eq_some_iff] at h
              obtain ⟨st₂, hstore, h⟩ := h
              have hlength : rest.length + 1 = r.rows.length := by
                rw [hrow, List.length_cons]
              have htable₂ : st₂.table = st.table := by
                obtain ⟨mem, -, rfl⟩ := Option.map_eq_some_iff.mp hstore
                exact hsame.2
              rw [htable₂, hlength] at h
              rw [← hrow] at hstore
              refine .inr ⟨st₂, ?_, Int.ofNat.inj hmatch, hstore,
                (Option.some.inj h).symm⟩
              rw [hrow]
              exact List.cons_ne_nil row rest

end Fetch

-- ============================================================ SELECT INTO

/-- The statement of a SELECT INTO. -/
def execSelect (id : Nat) (query : Text) (nParams : Nat) (st : State σ) :
    State σ :=
  if 0 < nParams then ocesqlExecParams pq id query nParams st
  else ocesqlExec pq id query st

/-- What both forms do with the result. -/
def storeSelected (id nResParams : Nat)
    (store : List (List Text) → State σ → Option (State σ)) (st : State σ) :
    Option (State σ) :=
  let status := setResultStatus id st
  let st := status.2
  if status.1 then
    if ocdbNfields id st ≠ nResParams then
      some (setLibErrorStatus .empty st)
    else
      match ocdbRows id st with
      | [] => some (setLibErrorStatus .notFound st)
      | row :: rows => store (row :: rows) st
  else some st

/-- `_ocesqlExecSelectIntoOne`. -/
def ocesqlExecSelectIntoOne (id : Nat) (query : Text)
    (nParams nResParams : Nat) (st : State σ) : Option (State σ) :=
  if query = [] then some (setLibErrorStatus .empty st)
  else
    storeSelected id nResParams (fun rows => storeFirst (rows.headD []))
      (execSelect pq id query nParams st)

/-- `_ocesqlExecSelectIntoOccurs`. -/
def ocesqlExecSelectIntoOccurs (id : Nat) (query : Text)
    (nParams nResParams : Nat) (st : State σ) : Option (State σ) :=
  if query = [] ∨ 500 < st.table.occursIter then
    some (setLibErrorStatus .empty st)
  else
    storeSelected id nResParams storeTable (execSelect pq id query nParams st)

-- ========================================================= host variables

/-- `OCESQLStartSQL`, `init_sql_var_list`. -/
def ocesqlStartSql (st : State σ) : State σ :=
  { st with
    sqlVars := some [], sqlResVars := some [], table := ⟨0, 0, false⟩ }

/-- `OCESQLEndSQL`, `reset_sql_var_list`. -/
def ocesqlEndSql (st : State σ) : State σ :=
  { st with sqlVars := none, sqlResVars := none, table := ⟨0, 0, false⟩ }

/-- `OCESQLSetSQLParams`, `add_sql_var_list`. -/
def ocesqlSetSqlParams (sv : SqlVar) (st : State σ) : Option (State σ) :=
  match st.sqlVars with
  | none => some st
  | some vars =>
      (createRealdata st.table st.mem sv 0).map fun realdata =>
        { st with sqlVars := some (vars ++ [(sv, realdata)]) }

/-- `OCESQLSetResultParams`, `add_sql_res_var_list`. -/
def ocesqlSetResultParams (sv : SqlVar) (st : State σ) : State σ :=
  { st with sqlResVars := st.sqlResVars.map fun vars => vars ++ [sv] }

/-- `OCESQLSetHostTable`. -/
def ocesqlSetHostTable (iter length : Nat) (isParent : Bool)
    (st : State σ) : State σ :=
  { st with table := ⟨length, iter, isParent⟩ }

-- =================================================================== runs

/-- The calls of a program; `cobol` is whatever it does to its storage
between two of them. -/
inductive Call where
  | connect (connstr : Text)
  | idConnect (atdb connstr : Text)
  | disconnect (atdb : Text)
  | exec (atdb query : Text)
  | execParams (atdb query : Text) (nParams : Nat)
  | execParamsOccurs (atdb query : Text) (nParams : Nat)
  | prepare (sname query : Text)
  | execPrepare (atdb sname : Text) (nParams : Nat)
  | cursorDeclare (atdb cname query : Text)
  | cursorDeclareParams (atdb cname query : Text) (nParams : Nat)
  | preparedCursorDeclare (atdb cname sname : Text)
  | cursorOpen (cname : Text)
  | cursorOpenParams (cname : Text) (nParams : Nat)
  | cursorFetchOne (cname : Text)
  | cursorFetchOccurs (cname : Text)
  | cursorClose (cname : Text)
  | selectIntoOne (atdb query : Text) (nParams nResParams : Nat)
  | selectIntoOccurs (atdb query : Text) (nParams nResParams : Nat)
  | startSql
  | endSql
  | setSqlParams (sv : SqlVar)
  | setResultParams (sv : SqlVar)
  | setHostTable (iter length : Nat) (isParent : Bool)
  | cobol (f : Storage → Storage)

/-- One call. -/
def step : Call → State σ → Option (State σ)
  | .connect connstr, st =>
      some (ocesqlConnectMain pq connstr defaultDbname st)
  | .idConnect atdb connstr, st => some (ocesqlIdConnect pq atdb connstr st)
  | .disconnect atdb, st =>
      withConnection atdb (fun id st => some (ocdbFinish pq id st)) st
  | .exec atdb query, st =>
      withConnection atdb (fun id st => some (ocesqlExec pq id query st)) st
  | .execParams atdb query nParams, st =>
      withConnection atdb
        (fun id st => some (ocesqlExecParams pq id query nParams st)) st
  | .execParamsOccurs atdb query nParams, st =>
      withConnection atdb
        (fun id st => ocesqlExecParamsOccurs pq id query nParams st) st
  | .prepare sname query, st => some (ocesqlPrepare sname query st)
  | .execPrepare atdb sname nParams, st =>
      withConnection atdb
        (fun id st => ocesqlExecPrepare pq id sname nParams st) st
  | .cursorDeclare atdb cname query, st =>
      withConnection atdb
        (fun id st => ocesqlCursorDeclare id cname query 0 st) st
  -- a cursor with parameters must have one
  | .cursorDeclareParams atdb cname query nParams, st =>
      withConnection atdb (fun id st =>
        if nParams = 0 then some (setLibErrorStatus .empty st)
        else ocesqlCursorDeclare id cname query nParams st) st
  | .preparedCursorDeclare atdb cname sname, st =>
      withConnection atdb
        (fun id st => some (ocesqlPreparedCursorDeclare id cname sname st)) st
  | .cursorOpen cname, st => ocesqlCursorOpen pq cname st
  | .cursorOpenParams cname nParams, st =>
      ocesqlCursorOpenParams pq cname nParams st
  | .cursorFetchOne cname, st => ocesqlCursorFetchOne pq cname st
  | .cursorFetchOccurs cname, st => ocesqlCursorFetchOccurs pq cname st
  | .cursorClose cname, st => some (ocesqlCursorClose pq cname st)
  | .selectIntoOne atdb query nParams nResParams, st =>
      withConnection atdb (fun id st =>
        ocesqlExecSelectIntoOne pq id query nParams nResParams st) st
  | .selectIntoOccurs atdb query nParams nResParams, st =>
      withConnection atdb (fun id st =>
        ocesqlExecSelectIntoOccurs pq id query nParams nResParams st) st
  | .startSql, st => some (ocesqlStartSql st)
  | .endSql, st => some (ocesqlEndSql st)
  | .setSqlParams sv, st => ocesqlSetSqlParams sv st
  | .setResultParams sv, st => some (ocesqlSetResultParams sv st)
  | .setHostTable iter length isParent, st =>
      some (ocesqlSetHostTable iter length isParent st)
  | .cobol f, st => some { st with mem := f st.mem }

/-- A run of calls. -/
def run : List Call → State σ → Option (State σ)
  | [], st => some st
  | call :: calls, st => (step pq call st).bind (run calls)

theorem run_append (calls calls' : List Call) (st : State σ) :
    run pq (calls ++ calls') st
      = (run pq calls st).bind (run pq calls') := by
  induction calls generalizing st with
  | nil => rfl
  | cons call calls ih =>
      rw [List.cons_append, run, run, Option.bind_assoc]
      congr 1
      funext st
      exact ih st

end CobolExercises.Runtime
