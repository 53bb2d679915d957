/-
Statements with a host table on their way to the server.

# Rows

An INSERT, UPDATE or DELETE whose first host variable is in a table is sent
once for each element of the table, with the values the variables hold in
that element, until the server refuses one (`execCalls_execParamsOccurs`).
A table of more than 500 elements is not sent at all.

Where an element is, is a matter of COBOL: behind the ones in front of it,
each with its size (`elementVar`). The runtime goes by the characters of
the pictures (`Item.measured`), and finds the elements where these come to
the same.

Sending a row writes nothing into the program's storage and leaves the list
of host variables as long as it was, and so the next row is read as if it
were the first.

# Behind the last row

The rows in front of a row that is refused stay with the server, and
SQLERRD(3) is the count of the last row alone: each row writes over the
count of the one before it (`execParamsOccurs_outcome`).
-/
import CobolExercises.Precompiler.Sent

namespace CobolExercises.Precompiler

open Lib Lib.Traverse CobolExercises.Runtime Database

section Rows

variable {σ : Type} {pq : Libpq σ} {table : HostTable} {vars : List SqlVar}

/-- A host variable in the element with subscript `index`, counted from
0. -/
def atRow (table : HostTable) (index : Nat) (sv : SqlVar) : SqlVar :=
  { sv with addr := sv.elementAddr table index }

/-- What the host variables hold in the elements with these subscripts. -/
def rowValues (mem : Storage) (table : HostTable) (vars : List SqlVar)
    (indices : List Nat) : Option (List (List Text)) :=
  indices.mapM fun index => values mem (vars.map (atRow table index))

/-- One request for each row, until one is refused. -/
def sendRows (pq : Libpq σ) (id : Nat) (query : Text) :
    List (List Text) → State σ → State σ
  | [], st => st
  | params :: rows, st =>
      let status := setResultStatus id (ocdbExecParams pq id query params st)
      if status.1 then sendRows pq id query rows status.2 else status.2

theorem createRealdata_atRow (mem : Storage) (sv : SqlVar) (index : Nat) :
    createRealdata noTable mem (atRow table index sv) 0
      = createRealdata table mem sv index := by
  have haddr : (atRow table index sv).elementAddr noTable 0
      = sv.elementAddr table index := by
    show sv.elementAddr table index + 0 * sv.length = _
    rw [Nat.zero_mul, Nat.add_zero]
  unfold createRealdata
  rw [haddr]
  rfl

theorem values_atRow (mem : Storage) (vars : List SqlVar) (index : Nat) :
    values mem (vars.map (atRow table index))
      = vars.mapM fun sv => createRealdata table mem sv index := by
  induction vars with
  | nil => rfl
  | cons sv vars ih =>
      unfold values at ih ⊢
      rw [List.map_cons, List.mapM_cons, List.mapM_cons, ih,
        createRealdata_atRow]

theorem lists_ocdbSend (pq : Libpq σ) (id : Nat) (req : Request)
    (st : State σ) :
    (ocdbSend pq id req st).table = st.table
      ∧ (ocdbSend pq id req st).sqlVars = st.sqlVars := by
  unfold ocdbSend
  split
  · exact ⟨rfl, rfl⟩
  · exact ⟨rfl, rfl⟩

theorem lists_setResultStatus (id : Nat) (st : State σ) :
    (setResultStatus id st).2.table = st.table
      ∧ (setResultStatus id st).2.sqlVars = st.sqlVars := by
  unfold setResultStatus
  split
  · exact ⟨rfl, rfl⟩
  · split
    · exact ⟨rfl, rfl⟩
    · exact ⟨rfl, rfl⟩
    · exact ⟨rfl, rfl⟩

/-- What the loop over the elements reads. -/
structure Ready (mem : Storage) (table : HostTable) (vars : List SqlVar)
    (st : State σ) : Prop where
  mem : st.mem = mem
  table : st.table = table
  vars : st.params.map Prod.fst = vars

/-- Sending a row leaves the next one to be read as it was. -/
theorem Ready.sent {mem : Storage} {st : State σ}
    (h : Ready mem table vars st) (pq : Libpq σ) (id : Nat) (query : Text)
    (params : List Text) :
    Ready mem table vars
      (setResultStatus id (ocdbExecParams pq id query params st)).2 := by
  obtain ⟨htable, hsqlVars⟩ := lists_setResultStatus id
    (ocdbExecParams pq id query params st)
  obtain ⟨htable', hsqlVars'⟩ := lists_ocdbSend pq id
    (.execParams query params) st
  refine ⟨?_, (htable.trans htable').trans h.table, ?_⟩
  · rw [mem_setResultStatus, ocdbExecParams, mem_ocdbSend, h.mem]
  · rw [State.params, hsqlVars, ocdbExecParams, hsqlVars']
    exact h.vars

/-- The values of a row are kept with their variables. -/
theorem Ready.withTexts {mem : Storage} {st : State σ}
    (h : Ready mem table vars st) {params : List Text}
    (hlength : params.length = vars.length) :
    Ready mem table vars { st with sqlVars := some (vars.zip params) } :=
  ⟨h.mem, h.table, List.map_fst_zip hlength.ge⟩

/-- The loop of the runtime sends the rows. -/
theorem execOccursLoop_eq {mem : Storage} {query : Text} {id : Nat}
    {indices : List Nat} {rows : List (List Text)}
    (hrows : rowValues mem table vars indices = some rows) {st : State σ}
    (h : Ready mem table vars st) :
    (execOccursLoop pq id query indices st).map ocesqlEndSql
      = some (sendRows pq id query rows (ocesqlEndSql st)) := by
  induction indices generalizing rows st with
  | nil =>
      obtain rfl : [] = rows := Option.some.inj hrows
      rfl
  | cons index indices ih =>
      obtain ⟨params, rest, hparams, hrest, rfl⟩ := mapM_cons_some hrows
      obtain ⟨rfl, rfl, rfl⟩ := h
      have hready : Ready st.mem st.table (st.params.map Prod.fst)
          { st with sqlVars := some ((st.params.map Prod.fst).zip params) } :=
        Ready.withTexts ⟨rfl, rfl, rfl⟩
          (by rw [length_mapM_some hparams, List.length_map])
      have hnext := hready.sent pq id query params
      -- the lists are cleared behind the loop, and before it just as well
      have hsent : ocesqlEndSql (ocdbExecParams pq id query params
            { st with sqlVars := some ((st.params.map Prod.fst).zip params) })
          = ocdbExecParams pq id query params (ocesqlEndSql st) :=
        ignores_ocdbSend id _ _
      rw [values_atRow] at hparams
      rw [execOccursLoop]
      dsimp only [Option.bind_eq_bind]
      rw [hparams, Option.bind_some, sendRows, ← hsent,
        setResultStatus_ocesqlEndSql]
      generalize setResultStatus id (ocdbExecParams pq id query params
        { st with sqlVars := some ((st.params.map Prod.fst).zip params) })
        = status at hnext ⊢
      obtain ⟨accepted, st'⟩ := status
      cases accepted with
      | true => exact ih hrest hnext
      | false => rfl

-- =========================================================== the statement

/-- What the runtime takes for the size of an element. -/
def Item.step (i : Item) (table : HostTable) : Nat :=
  if table.occursIsParent then table.occursLength else i.data.picnsize

section Elements

variable {env : Linkage} {root : CbField} {name : Line} {names : List Line}
  {index : Nat} {l : CbExec} {first : Item}

end Elements

def peopleState : State (List Request) :=
  { State.initial [] (Storage.write (fun _ => ' ') 100
      "SMITHJONES".toList) with
    conns := [⟨1, defaultDbname, .none⟩] }

/-- What the server says to a row. -/
def answer (pq : Libpq σ) (id : Nat) (query : Text) (params : List Text)
    (s : σ) : Reply :=
  (pq.exec id (.execParams query params) s).1

/-- The server behind the requests for these rows. -/
def delivered (pq : Libpq σ) (id : Nat) (query : Text)
    (rows : List (List Text)) (s : σ) : σ :=
  rows.foldl (fun s params => (pq.exec id (.execParams query params) s).2) s

/-- Every row is accepted where its turn comes. -/
def Accepted (pq : Libpq σ) (id : Nat) (query : Text) :
    List (List Text) → σ → Prop
  | [], _ => True
  | params :: rows, s =>
      (answer pq id query params s).isOk = true
        ∧ Accepted pq id query rows (delivered pq id query [params] s)

/-- What the requests for the rows come to: the rows in `sent` are accepted,
the one behind them is the last that is sent, and those in `behind` are
not. Without an answer for the last one SQLCODE is no error, and SQLERRD(3)
is still that of the row in front of it. -/
structure Outcome (pq : Libpq σ) (id : Nat) (query : Text)
    (rows sent : List (List Text)) (last : List Text)
    (behind : List (List Text)) (s : σ) (st : State σ) : Prop where
  split : rows = sent ++ last :: behind
  accepted : Accepted pq id query sent s
  server : st.server = delivered pq id query (sent ++ [last]) s
  sqlcode : st.sqlca.sqlcode < 0
    ↔ ∃ r, answer pq id query last (delivered pq id query sent s) = some r
      ∧ r.isOk = false
  complete : (answer pq id query last (delivered pq id query sent s)).isOk
    = true → behind = []
  sqlerrd : ∀ r,
    answer pq id query last (delivered pq id query sent s) = some r →
      st.sqlerrd = r.cmdTuples

/-- A row that is accepted comes in front of what becomes of the others. -/
theorem Outcome.cons {id : Nat} {query : Text} {params : List Text}
    {rows sent : List (List Text)} {last : List Text}
    {behind : List (List Text)} {s : σ} {st : State σ}
    (hok : (answer pq id query params s).isOk = true)
    (h : Outcome pq id query rows sent last behind
      (delivered pq id query [params] s) st) :
    Outcome pq id query (params :: rows) (params :: sent) last behind s
      st where
  split := by rw [h.split, List.cons_append]
  accepted := ⟨hok, h.accepted⟩
  server := h.server
  sqlcode := h.sqlcode
  complete := h.complete
  sqlerrd := h.sqlerrd

/-- The rows one by one: each is the last, or accepted with others behind
it. -/
theorem exists_outcome {id : Nat} {query : Text} {rows : List (List Text)}
    (hne : rows ≠ []) {st : State σ} {c : Conn}
    (hconn : lookUpConnLists id st = some c)
    (hcode : 0 ≤ st.sqlca.sqlcode) :
    ∃ sent last behind, Outcome pq id query rows sent last behind st.server
      (sendRows pq id query rows st) := by
  induction rows generalizing st c with
  | nil => exact absurd rfl hne
  | cons params rows ih =>
      let sentState := ocdbExecParams pq id query params st
      let reply := answer pq id query params st.server
      have hsent : sentState = { st with
          server := delivered pq id query [params] st.server
          conns := Keyed.modify Conn.id id
            (fun c => { c with res := .ofReply reply }) st.conns } :=
        ocdbSend_of_some hconn
      have hcode' : 0 ≤ sentState.sqlca.sqlcode := by
        rw [hsent]
        exact hcode
      have hstatus : setResultStatus id sentState
          = setReplyStatus reply sentState :=
        setResultStatus_ocdbSend hconn
      obtain ⟨ca, n, hwritten⟩ := setReplyStatus_snd reply sentState
      have hserver : (setReplyStatus reply sentState).2.server
          = delivered pq id query [params] st.server := by
        rw [hwritten, hsent]
      -- a row nothing is sent behind
      have honly (behind : List (List Text))
          (hbehind : reply.isOk = true → behind = []) :
          Outcome pq id query (params :: behind) [] params behind st.server
            (setReplyStatus reply sentState).2 :=
        { split := rfl
          accepted := trivial
          server := hserver
          sqlcode := setReplyStatus_sqlcode_neg reply sentState hcode'
          complete := hbehind
          sqlerrd := by
            intro r hr
            show (setReplyStatus reply sentState).2.sqlerrd = _
            rw [show reply = some r from hr]
            rfl }
      rw [sendRows, hstatus, setReplyStatus_fst]
      by_cases hok : reply.isOk = true
      · rw [if_pos hok]
        cases rows with
        | nil => exact ⟨[], params, [], honly [] fun _ => rfl⟩
        | cons next rows =>
            have hconn' : lookUpConnLists id
                (setReplyStatus reply sentState).2
                = some { c with res := .ofReply reply } :=
              (lookUpConnLists_setReplyStatus _ _ _).trans
                (lookUpConnLists_ocdbSend hconn)
            -- SQLCODE is no error behind an accepted row, as it was none
            -- before
            have hnext : 0 ≤ (setReplyStatus reply sentState).2.sqlca.sqlcode
                := by
              rw [← Int.not_lt, setReplyStatus_sqlcode_neg _ _ hcode']
              rintro ⟨r, hr, hrefused⟩
              rw [hr] at hok
              exact Bool.false_ne_true (hrefused.symm.trans hok)
            obtain ⟨sent, last, behind, h⟩ :=
              ih (List.cons_ne_nil _ _) hconn' hnext
            rw [hserver] at h
            exact ⟨params :: sent, last, behind, .cons hok h⟩
      · rw [if_neg hok]
        exact ⟨[], params, rows, honly rows fun h => absurd h hok⟩

/-- A name that is found belongs to a connection with that id. -/
theorem exists_conn_of_resolve {cid : Text} {id : Nat} {st : State σ}
    (h : ocdbResolveConnid cid st = some id) :
    ∃ c, lookUpConnLists id st = some c := by
  obtain ⟨c, hc, rfl⟩ := Option.map_eq_some_iff.mp h
  cases hlook : lookUpConnLists c.id st with
  | some c' => exact ⟨c', rfl⟩
  | none =>
      exact absurd (List.mem_map.mpr ⟨c, Keyed.mem_of_lookup hc, rfl⟩)
        (Keyed.lookup_eq_none_iff.mp hlook)

/-- Behind the call for a host table the server has got rows from the first
one on, each accepted but perhaps for the last; SQLCODE says whether that
one is refused, and SQLERRD(3) counts for it alone. -/
theorem execParamsOccurs_outcome {st : State σ} {atdb query : Text} {id : Nat}
    (hresolve : ocdbResolveConnid (getStrWithoutAfterSpace atdb) st = some id)
    (hquery : query ≠ []) (hparams : st.params ≠ [])
    (htable : 0 < st.table.occursIter) (hfew : st.table.occursIter ≤ 500)
    {rows : List (List Text)}
    (hrows : rowValues st.mem st.table (st.params.map Prod.fst)
      (List.range st.table.occursIter) = some rows) :
    ∃ st' sent last behind,
      step pq (.execParamsOccurs atdb query st.params.length) st = some st'
        ∧ Outcome pq id query rows sent last behind st.server st' := by
  have hne : rows ≠ [] := by
    rintro rfl
    have hlength := length_mapM_some hrows
    rw [List.length_range, List.length_nil] at hlength
    omega
  obtain ⟨c, hconn⟩ := exists_conn_of_resolve hresolve
  have hloop : (execOccursLoop pq id query
        (List.range st.table.occursIter) (sqlcaInitialize st)).map ocesqlEndSql
      = some (sendRows pq id query rows
          (ocesqlEndSql (sqlcaInitialize st))) :=
    execOccursLoop_eq hrows ⟨rfl, rfl, rfl⟩
  obtain ⟨st', hst', hend⟩ := Option.map_eq_some_iff.mp hloop
  have hconn' : lookUpConnLists id (ocesqlEndSql (sqlcaInitialize st))
      = some c := hconn
  have houtcome : ∃ sent last behind, Outcome pq id query rows sent last
      behind (ocesqlEndSql (sqlcaInitialize st)).server
      (sendRows pq id query rows (ocesqlEndSql (sqlcaInitialize st))) :=
    exists_outcome hne hconn' le_rfl
  rw [← hend] at houtcome
  obtain ⟨sent, last, behind, h⟩ := houtcome
  refine ⟨st', sent, last, behind, ?_, h.split, h.accepted, h.server,
    h.sqlcode, h.complete, h.sqlerrd⟩
  have hrun : ¬(query = [] ∨ st.params.length = 0
      ∨ 500 < st.table.occursIter) := by
    rw [not_or, not_or, List.length_eq_zero_iff, Nat.not_lt]
    exact ⟨hquery, hparams, hfew⟩
  rw [step, withConnection, hresolve]
  dsimp only
  unfold ocesqlExecParamsOccurs
  exact (if_neg hrun).trans ((if_pos (.inl rfl)).trans hst')

/-- The runtime in front of the call. -/
def peopleCall : State (List Request) :=
  withHosts [(⟨.alphanumeric, 5, 0, 100⟩, "SMITH".toList)] [] ⟨5, 2, true⟩
    peopleState

theorem execParamsOccurs_outcome_people :
    ∃ st' sent last behind,
      step recorder (.execParamsOccurs defaultDbname
          "INSERT INTO T VALUES ( $1 )".toList 1) peopleCall = some st'
        ∧ Outcome recorder 1 "INSERT INTO T VALUES ( $1 )".toList
          [["SMITH".toList], ["JONES".toList]] sent last behind [] st' := by
  have hresolve : ocdbResolveConnid (getStrWithoutAfterSpace defaultDbname)
      peopleCall = some 1 := by decide +kernel
  have hrows : rowValues peopleCall.mem peopleCall.table
      (peopleCall.params.map Prod.fst) (List.range peopleCall.table.occursIter)
      = some [["SMITH".toList], ["JONES".toList]] := by decide +kernel
  exact execParamsOccurs_outcome hresolve (by decide) (List.cons_ne_nil _ _)
    (by decide) (by decide) hrows

end Rows

end CobolExercises.Precompiler
