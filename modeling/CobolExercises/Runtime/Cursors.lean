/-
Cursors over whole runs: what a program can rely on, whatever calls come in
between, and what happens to a cursor whose connection is gone.

Every run starts in `State.initial`. The results about portals ask for a
server whose portals behave as documented (`View.Lawful`) and for calls
whose texts leave cursors to the runtime (`Call.Plain`); the others hold
with any server.
-/
import CobolExercises.Runtime.Portals
import CobolExercises.Runtime.Refine
import CobolExercises.Runtime.Server

namespace CobolExercises.Runtime

open Lib Database

variable {σ : Type} {pq : Libpq σ} {v : View σ} {server : σ} {mem : Storage}
  {st st' : State σ} {cname : Text} {cursor : Cursor}

-- ============================================================= invariants

/-- Nothing is forbidden. -/
def Rules.lax : Rules := ⟨fun _ => False, fun _ => True, fun _ => True⟩

/-- Statements leave the cursors to the runtime. -/
def View.free (v : View σ) : Rules :=
  ⟨v.touches, fun _ => True, fun _ => True⟩

/-- There is nothing to be told apart. -/
theorem unique_initial : (State.initial server mem).core.Unique where
  ids := List.nodup_nil
  names := List.nodup_nil
  cnames := List.nodup_nil
  given := nofun
  connids := nofun

/-- There is no portal to be owned. -/
theorem owned_initial : (State.initial server mem).core.Owned v := nofun

/-- Nothing is prepared. -/
theorem preparedPlain_initial {touches : Text → Prop} :
    PreparedPlain touches (State.initial server mem) := nofun

/-- The rules that forbid nothing. -/
theorem plain_lax (call : Call) : call.Plain Rules.lax := by
  cases call with
  | exec | execParams | execParamsOccurs | selectIntoOne
  | selectIntoOccurs | prepare => exact not_false
  | _ => trivial

/-- The ids of the core are those of the list. -/
theorem ids_core (st : State σ) : st.core.ids = st.conns.map Conn.id := by
  rw [Core.ids, State.core, List.map_map]
  rfl

/-- The cursors of the core have the names of the list. -/
theorem cnames_core (st : State σ) :
    st.core.cursors.map Handle.cname = st.cursors.map Cursor.cname := by
  rw [State.core, List.map_map]
  rfl

/-- A run, as the protocol sees it without any restriction. -/
theorem steps_lax {calls : List Call}
    (h : run pq calls st = some st') :
    Core.Steps pq Rules.lax st.core st'.core := by
  refine (steps_run (fun call _ => plain_lax call) not_false ?_ h).1
  exact fun _ _ => not_false

/-- The invariant of `Core.Unique` behind a run. -/
theorem unique_run {calls : List Call}
    (h : run pq calls (State.initial server mem) = some st) :
    st.core.Unique :=
  (steps_lax h).keeps (fun hs h => h.step hs) unique_initial

/-- A plain run as steps of the core, with what it has prepared. -/
theorem steps_free {calls : List Call} (hv : v.Lawful pq)
    (hplain : ∀ call ∈ calls, call.Plain v.free)
    (h : run pq calls (State.initial server mem) = some st) :
    Core.Steps pq v.free (State.initial server mem).core st.core
      ∧ PreparedPlain v.touches st :=
  steps_run hplain hv.begin_plain preparedPlain_initial h

/-- No connection was given out. -/
theorem released_initial : (State.initial server mem).core.Released v := by
  intro id hpos hlt
  exact absurd hpos (Nat.not_lt.mpr (Nat.le_of_lt_succ hlt))

/-- The invariant of `Core.Owned` behind a plain run. -/
theorem owned_run {calls : List Call} (hv : v.Lawful pq)
    (hplain : ∀ call ∈ calls, call.Plain v.free)
    (h : run pq calls (State.initial server mem) = some st) :
    st.core.Owned v :=
  owned_initial.steps unique_initial hv rfl (steps_free hv hplain h).1

-- ============================================================== a sample

def sampleStart : State Server := .initial .sample fun _ => ' '

def sampleCursor : Text := "C".toList

def sampleCalls : List Call :=
  [.connect [], .cursorDeclare defaultDbname sampleCursor "SELECT".toList,
    .cursorOpen sampleCursor]

/-- The sample is defined. -/
theorem sampleCalls_run :
    (run Server.pq sampleCalls sampleStart).isSome = true := rfl

/-- A cursor has just been opened. -/
def sampleOpened : State Server :=
  (run Server.pq sampleCalls sampleStart).get sampleCalls_run

/-- A connection, a declared cursor, and its portal. -/
theorem run_sampleCalls :
    run Server.pq sampleCalls sampleStart = some sampleOpened :=
  (Option.some_get _).symm

/-- The sample leaves cursors to the runtime. -/
theorem plain_sampleCalls :
    ∀ call ∈ sampleCalls, call.Plain Server.view.free := by
  intro call hcall
  unfold sampleCalls at hcall
  simp only [List.mem_cons, List.not_mem_nil, or_false] at hcall
  rcases hcall with rfl | rfl | rfl
  · trivial
  · trivial
  · trivial

/-- Its connection is closed. -/
theorem sampleGone_run : (run Server.pq [.disconnect defaultDbname]
    sampleOpened).isSome = true := rfl

def sampleGone : State Server :=
  (run Server.pq [.disconnect defaultDbname] sampleOpened).get sampleGone_run

/-- Its connection is given up with the cursor open. -/
theorem run_sampleGone : run Server.pq [.disconnect defaultDbname]
    sampleOpened = some sampleGone :=
  (Option.some_get _).symm

-- ========================================================= ids and names

/-- In every run connections are told apart by their ids and by their
names, and cursors by their names; an id that is gone is never given out
again. -/
theorem run_unique {before after : List Call} {st₀ : State σ}
    (hbefore : run pq before (State.initial server mem) = some st₀)
    (hafter : run pq after st₀ = some st) :
    (st.conns.map Conn.id).Nodup ∧ (st.conns.map Conn.cid).Nodup
      ∧ (st.cursors.map Cursor.cname).Nodup
      ∧ ∀ id < st₀.nextConnId, id ∉ st₀.conns.map Conn.id →
        id ∉ st.conns.map Conn.id := by
  have hsteps := steps_lax hafter
  have hu : st.core.Unique :=
    Core.Steps.keeps hsteps (fun hs h => h.step hs) (unique_run hbefore)
  refine ⟨?_, ?_, ?_, ?_⟩
  · rw [← ids_core]
    exact hu.ids
  · have hnames := hu.names
    rw [State.core, List.map_map] at hnames
    exact hnames
  · rw [← cnames_core]
    exact hu.cnames
  · intro id hlt hgone
    rw [← ids_core] at hgone ⊢
    exact (Core.Steps.gone hsteps hgone hlt).1

/-- The id of the sample is not given out again. -/
theorem run_unique_sample :
    (sampleGone.conns.map Conn.id).Nodup
      ∧ (sampleGone.conns.map Conn.cid).Nodup
      ∧ (sampleGone.cursors.map Cursor.cname).Nodup
      ∧ ∀ id < sampleOpened.nextConnId,
        id ∉ sampleOpened.conns.map Conn.id →
        id ∉ sampleGone.conns.map Conn.id :=
  run_unique run_sampleCalls run_sampleGone

-- ================================================================= portals

/-- Every portal belongs to a cursor that is noted as open on its
connection, and a connection that is closed has none: no portal is left
behind. -/
theorem portals_owned {calls : List Call} (hv : v.Lawful pq)
    (hplain : ∀ call ∈ calls, call.Plain v.free)
    (h : run pq calls (State.initial server mem) = some st) :
    (∀ c ∈ st.conns, ∀ p, v.rows c.id p st.server ≠ none →
      ∃ cursor ∈ st.cursors, cursor.isOpened = true ∧ cursor.connid = c.id
        ∧ v.fold cursor.cname = p)
    ∧ ∀ id, 0 < id → id < st.nextConnId → id ∉ st.conns.map Conn.id →
      ∀ p, v.rows id p st.server = none := by
  constructor
  · intro c hc p hp
    have hid : c.id ∈ st.core.ids := by
      rw [ids_core]
      exact List.mem_map.mpr ⟨c, hc, rfl⟩
    obtain ⟨d, hd, hopened, hconn, hfold⟩ :=
      owned_run hv hplain h c.id hid p hp
    obtain ⟨cursor, hcursor, rfl⟩ := List.mem_map.mp hd
    exact ⟨cursor, hcursor, hopened, hconn, hfold⟩
  · intro id hpos hlt hgone
    rw [← ids_core] at hgone
    exact released_initial.steps hv (steps_lax h) id hpos hlt hgone

/-- The portal of the sample has its cursor. -/
theorem portals_owned_sample :
    (∀ c ∈ sampleOpened.conns, ∀ p,
      Server.view.rows c.id p sampleOpened.server ≠ none →
      ∃ cursor ∈ sampleOpened.cursors, cursor.isOpened = true
        ∧ cursor.connid = c.id ∧ Server.fold cursor.cname = p)
    ∧ ∀ id, 0 < id → id < sampleOpened.nextConnId →
      id ∉ sampleOpened.conns.map Conn.id →
      ∀ p, Server.view.rows id p sampleOpened.server = none :=
  portals_owned Server.lawful plain_sampleCalls run_sampleCalls

/-- Behind the CLOSE an OPEN begins with there is no portal in the way. -/
theorem rows_closeOpened {calls : List Call} {c : Conn} (hv : v.Lawful pq)
    (hplain : ∀ call ∈ calls, call.Plain v.free)
    (h : run pq calls (State.initial server mem) = some st)
    (hcursor : getCursorFromList cname st = some cursor)
    (hconn : lookUpConnLists cursor.connid st = some c)
    (hfold : ∀ d ∈ st.cursors, v.fold d.cname = v.fold cname →
      d.cname = cname)
    (hok : (closeOpened pq cursor (sqlcaInitialize st)).1 = true) :
    v.rows cursor.connid (v.fold cname)
      (closeOpened pq cursor (sqlcaInitialize st)).2.server = none := by
  obtain rfl : cursor.cname = cname := Keyed.key_of_lookup hcursor
  have hconn' : lookUpConnLists cursor.connid (sqlcaInitialize st)
      = some c := hconn
  cases hopened : cursor.isOpened with
  | true =>
      obtain ⟨ca, n, hstatus⟩ := setReplyStatus_snd
        (pq.exec cursor.connid (.cursorClose cursor.cname) st.server).1
        (ocdbSend pq cursor.connid (.cursorClose cursor.cname)
          (sqlcaInitialize st))
      rw [closeOpened_of_some hopened hconn' rfl hstatus.symm] at hok ⊢
      dsimp only at hok ⊢
      rw [if_pos hok]
      show v.rows _ _ (ocdbSend pq cursor.connid _ _).server = none
      rw [ocdbSend_of_some hconn']
      exact hv.exec_close _ _ _ hok
  | false =>
      rw [closeOpened_of_closed hopened]
      by_contra hrows
      obtain ⟨d, hd, hdopened, hdconn, hdfold⟩ := owned_run hv hplain h
        cursor.connid (mem_ids_of_lookUp hconn) (v.fold cursor.cname) hrows
      obtain ⟨e, he, rfl⟩ := List.mem_map.mp hd
      have hlook := (Keyed.lookup_eq_some_iff (unique_run h).cnames).mpr
        ⟨hd, hfold e he hdfold⟩
      rw [lookup_handle hcursor] at hlook
      rw [← Option.some.inj hlook] at hdopened
      rw [show cursor.handle.isOpened = false from hopened] at hdopened
      cases hdopened

/-- -605 in SQLCODE behind an answer comes from the answer. -/
theorem sqlcode_setReplyStatus {reply : Reply}
    (h : st.sqlca.sqlcode ≠ -605)
    (hreply : ∀ r, reply = some r →
      (statusOf st.sqlca r).sqlcode ≠ -605) :
    (setReplyStatus reply st).2.sqlca.sqlcode ≠ -605 := by
  cases reply with
  | none => exact h
  | some r => exact hreply r rfl

/-- A call that has only begun reports nothing. -/
theorem sqlcode_sqlcaInitialize (st : State σ) :
    (sqlcaInitialize st).sqlca.sqlcode ≠ -605 :=
  (by decide : (0 : Int) ≠ -605)

/-- Closing first does not report a portal that exists. -/
theorem sqlcode_closeOpened (hv : v.Lawful pq)
    (h : st.sqlca.sqlcode ≠ -605) :
    (closeOpened pq cursor st).2.sqlca.sqlcode ≠ -605 := by
  cases hopened : cursor.isOpened with
  | false =>
      rw [closeOpened_of_closed hopened]
      exact h
  | true =>
      cases hconn : lookUpConnLists cursor.connid st with
      | none =>
          rw [closeOpened_of_none hopened hconn]
          exact h
      | some c =>
          have hsent : (setReplyStatus
              (pq.exec cursor.connid (.cursorClose cursor.cname)
                st.server).1
              (ocdbSend pq cursor.connid (.cursorClose cursor.cname)
                st)).2.sqlca.sqlcode ≠ -605 := by
            refine sqlcode_setReplyStatus ?_ fun r hr heq => ?_
            · rw [ocdbSend_of_some hconn]
              exact h
            · obtain ⟨name, hname, -⟩ :=
                hv.exec_duplicate _ _ _ _ r rfl hr heq
              cases hname
          rw [closeOpened_of_some hopened hconn rfl rfl]
          dsimp only
          split
          · exact hsent
          · exact hsent

/-- An OPEN that finds no portal of its name does not report one. -/
theorem sqlcode_finishOpen {req : Request} (hv : v.Lawful pq)
    (hreq : req.declared = some cname) (h : st.sqlca.sqlcode ≠ -605)
    (hfree : ∀ c, lookUpConnLists cursor.connid st = some c →
      v.rows cursor.connid (v.fold cname) st.server = none) :
    (finishOpen cursor (ocdbSend pq cursor.connid req st)).sqlca.sqlcode
      ≠ -605 := by
  cases hconn : lookUpConnLists cursor.connid st with
  | none =>
      rw [ocdbSend_of_none hconn, finishOpen_of_none hconn]
      exact h
  | some c =>
      have hsent : (setReplyStatus
          (pq.exec cursor.connid req st.server).1
          (ocdbSend pq cursor.connid req st)).2.sqlca.sqlcode ≠ -605 := by
        refine sqlcode_setReplyStatus ?_ fun r hr heq => ?_
        · rw [ocdbSend_of_some hconn]
          exact h
        · obtain ⟨name, hname, hrows⟩ :=
            hv.exec_duplicate _ _ _ _ r (Core.of_declared hreq).1 hr heq
          rw [hreq] at hname
          obtain rfl := Option.some.inj hname
          exact hrows (hfree c hconn)
      rw [finishOpen_of_some hconn rfl rfl]
      split
      · exact hsent
      · exact hsent

/-- Neither OPEN finds a portal of its name. -/
theorem OpenCases.sqlcode {calls : List Call} (hv : v.Lawful pq)
    (hplain : ∀ call ∈ calls, call.Plain v.free)
    (h : run pq calls (State.initial server mem) = some st)
    (hfold : ∀ d ∈ st.cursors, v.fold d.cname = v.fold cname →
      d.cname = cname)
    (hcases : OpenCases pq cname st st') : st'.sqlca.sqlcode ≠ -605 := by
  have hzero := sqlcode_sqlcaInitialize st
  cases hcases with
  | unsent heq hcode =>
      subst heq
      exact hcode
  | notClosed hcursor heq hcode =>
      subst heq
      show _ ≠ (-605 : Int)
      rw [hcode]
      exact sqlcode_closeOpened hv hzero
  | @declared cursor req hcursor hok hreq heq =>
      subst heq
      refine sqlcode_finishOpen hv hreq (sqlcode_closeOpened hv hzero) ?_
      intro c hconn
      cases hbefore : lookUpConnLists cursor.connid st with
      | some c₀ =>
          exact rows_closeOpened hv hplain h hcursor hbefore hfold hok
      | none =>
          -- without its connection nothing is closed, and nothing sent
          have hbefore' : lookUpConnLists cursor.connid (sqlcaInitialize st)
              = none := hbefore
          cases hopened : cursor.isOpened with
          | true =>
              rw [closeOpened_of_none hopened hbefore'] at hok
              cases hok
          | false =>
              rw [closeOpened_of_closed hopened, hbefore'] at hconn
              cases hconn

/-- No OPEN ends in SQLCODE -605, a portal that exists already, as long as
PostgreSQL keeps the names of the cursors apart. -/
theorem open_finds_no_portal {calls : List Call} {call : Call}
    (hv : v.Lawful pq) (hplain : ∀ call ∈ calls, call.Plain v.free)
    (h : run pq calls (State.initial server mem) = some st)
    (hfold : ∀ d ∈ st.cursors, v.fold d.cname = v.fold cname →
      d.cname = cname)
    (hcall : call = .cursorOpen cname
      ∨ ∃ nParams, call = .cursorOpenParams cname nParams)
    (hopen : step pq call st = some st') : st'.sqlca.sqlcode ≠ -605 := by
  rcases hcall with rfl | ⟨nParams, rfl⟩
  · exact (open_cases hopen).sqlcode hv hplain h hfold
  · exact (openParams_cases hopen).sqlcode hv hplain h hfold

/-- The second OPEN of the sample is defined. -/
theorem sampleReopened_run :
    (step Server.pq (.cursorOpen sampleCursor) sampleOpened).isSome
      = true := rfl

def sampleReopened : State Server :=
  (step Server.pq (.cursorOpen sampleCursor) sampleOpened).get
    sampleReopened_run

/-- Opened twice, the cursor is closed in between. -/
theorem open_finds_no_portal_sample :
    sampleReopened.sqlca.sqlcode ≠ -605 := by
  have hcall : Call.cursorOpen sampleCursor = .cursorOpen sampleCursor
      ∨ ∃ nParams, Call.cursorOpen sampleCursor
        = .cursorOpenParams sampleCursor nParams := .inl rfl
  refine open_finds_no_portal Server.lawful plain_sampleCalls
    run_sampleCalls ?_ hcall (Option.some_get sampleReopened_run).symm
  show ∀ d ∈ sampleOpened.cursors,
    Server.fold d.cname = Server.fold sampleCursor → d.cname = sampleCursor
  decide

-- =================================================== a connection is gone

/-- A cursor that was open when its connection went away stays as it is in
every later run. -/
theorem stranded_later {later : List Call} {calls : List Call}
    (h : run pq calls (State.initial server mem) = some st)
    (hcursor : getCursorFromList cname st = some cursor)
    (hopened : cursor.isOpened = true)
    (hgone : lookUpConnLists cursor.connid st = none)
    (hlater : run pq later st = some st') :
    ∃ cursor', getCursorFromList cname st' = some cursor'
      ∧ cursor'.isOpened = true
      ∧ lookUpConnLists cursor'.connid st' = none := by
  have hu := unique_run h
  have hmem : cursor.handle ∈ st.core.cursors :=
    Keyed.mem_of_lookup (lookup_handle hcursor)
  have hstranded : st.core.Stranded cname cursor.connid := by
    have hname : cursor.cname = cname := Keyed.key_of_lookup hcursor
    refine ⟨⟨cursor.handle, hmem, hname, rfl, hopened⟩, ?_, ?_⟩
    · rw [ids_core]
      exact Keyed.lookup_eq_none_iff.mp hgone
    · exact hu.connids _ (List.mem_map.mpr ⟨cursor.handle, hmem, rfl⟩)
  have hsteps := steps_lax hlater
  obtain ⟨⟨d, hd, hname, hconn, hdopened⟩, hgone', -⟩ :=
    hstranded.steps hu hsteps
  obtain ⟨cursor', hcursor', rfl⟩ := List.mem_map.mp hd
  have hu' : st'.core.Unique :=
    Core.Steps.keeps hsteps (fun hs h => h.step hs) hu
  have hcnames : (st'.cursors.map Cursor.cname).Nodup := by
    rw [← cnames_core]
    exact hu'.cnames
  refine ⟨cursor', (Keyed.lookup_eq_some_iff hcnames).mpr
    ⟨hcursor', hname⟩, hdopened, ?_⟩
  rw [ids_core, ← hconn] at hgone'
  exact Keyed.lookup_eq_none_iff.mpr hgone'

/-- A DECLARE of the cursor over a connection that is there, with a text or
for a statement that is prepared. -/
def Declares (cname : Text) (st : State σ) : Call → Prop
  | .cursorDeclare atdb name query =>
      name = cname ∧ query ≠ []
        ∧ ocdbResolveConnid (getStrWithoutAfterSpace atdb) st ≠ none
  | .cursorDeclareParams atdb name query nParams =>
      name = cname ∧ query ≠ [] ∧ nParams ≠ 0
        ∧ ocdbResolveConnid (getStrWithoutAfterSpace atdb) st ≠ none
  | .preparedCursorDeclare atdb name sname =>
      name = cname ∧ sname ≠ [] ∧ getPrepareFromList sname st ≠ none
        ∧ ocdbResolveConnid (getStrWithoutAfterSpace atdb) st ≠ none
  | _ => False

/-- No DECLARE gets past a cursor that is open. -/
theorem step_of_declares {call : Call} (hname : cname ≠ [])
    (hcursor : getCursorFromList cname st = some cursor)
    (hopened : cursor.isOpened = true) (h : Declares cname st call) :
    step pq call st
      = some (setLibErrorStatus .portalExists (sqlcaInitialize st)) := by
  have hfree : cursorIsFree cname (sqlcaInitialize st) ≠ true := by
    unfold cursorIsFree
    rw [show getCursorFromList cname (sqlcaInitialize st) = some cursor
      from hcursor]
    dsimp only
    rw [hopened]
    exact Bool.false_ne_true
  have htext {id nParams : Nat} {query : Text} (hquery : query ≠ []) :
      ocesqlCursorDeclare id cname query nParams st
        = some (setLibErrorStatus .portalExists (sqlcaInitialize st)) := by
    unfold ocesqlCursorDeclare
    rw [if_neg (not_or.mpr ⟨hname, hquery⟩), if_neg hfree]
  cases call with
  | cursorDeclare atdb name query =>
      obtain ⟨rfl, hquery, hconn⟩ := h
      obtain ⟨id, hid⟩ := Option.ne_none_iff_exists'.mp hconn
      rw [step, withConnection, hid]
      exact htext hquery
  | cursorDeclareParams atdb name query nParams =>
      obtain ⟨rfl, hquery, hn, hconn⟩ := h
      obtain ⟨id, hid⟩ := Option.ne_none_iff_exists'.mp hconn
      rw [step, withConnection, hid]
      exact (if_neg hn).trans (htext hquery)
  | preparedCursorDeclare atdb name sname =>
      obtain ⟨rfl, hsname, hprepared, hconn⟩ := h
      obtain ⟨id, hid⟩ := Option.ne_none_iff_exists'.mp hconn
      obtain ⟨prepare, hprepare⟩ := Option.ne_none_iff_exists'.mp hprepared
      rw [step, withConnection, hid]
      dsimp only
      unfold ocesqlPreparedCursorDeclare
      rw [if_neg (not_or.mpr ⟨hname, hsname⟩),
        show getPrepareFromList sname (sqlcaInitialize st) = some prepare
          from hprepare]
      dsimp only
      rw [if_neg hfree]
  | _ => exact h.elim

/-- OPEN USING of a cursor that is open and whose connection is gone says
something different for each reason not to open it. -/
theorem ocesqlCursorOpenParams_of_none (hname : cname ≠ [])
    (hcursor : getCursorFromList cname st = some cursor)
    (hopened : cursor.isOpened = true)
    (hgone : lookUpConnLists cursor.connid st = none) (nParams : Nat) :
    ∃ ca : Sqlca, ocesqlCursorOpenParams pq cname nParams st
        = some { sqlcaInitialize st with sqlca := ca }
      ∧ (ca.sqlcode = -230 ∨ ca.sqlcode = -212
        ∨ ca.sqlcode = 0
          ∧ ca.sqlerrmc = "Connection is not opened.".toList) := by
  have hclose : closeOpened pq cursor (sqlcaInitialize st)
      = (false, sqlcaInitialize st) :=
    closeOpened_of_none hopened hgone
  unfold ocesqlCursorOpenParams
  dsimp only
  rw [if_neg hname, show getCursorFromList cname (sqlcaInitialize st)
    = some cursor from hcursor]
  dsimp only
  split
  case h_1 => exact ⟨_, rfl, .inl rfl⟩
  case h_2 prepare hprepare =>
      split
      case isTrue => exact ⟨_, rfl, .inr (.inl rfl)⟩
      case isFalse =>
          rw [hclose, if_neg Bool.false_ne_true]
          unfold setResultErrorMessage
          rw [show lookUpConnLists cursor.connid (sqlcaInitialize st) = none
            from hgone]
          exact ⟨_, rfl, .inr (.inr ⟨rfl, rfl⟩)⟩

/-- From then on nothing that is done with the cursor has an effect beyond
SQLCA, and no DECLARE gets it back. OPEN, FETCH and CLOSE do not even report
an error. -/
theorem disconnected_cursor {later : List Call} {calls : List Call}
    (h : run pq calls (State.initial server mem) = some st)
    (hname : cname ≠ []) (hcursor : getCursorFromList cname st = some cursor)
    (hopened : cursor.isOpened = true)
    (hgone : lookUpConnLists cursor.connid st = none)
    (hlater : run pq later st = some st') :
    (∀ call ∈ [Call.cursorOpen cname, .cursorFetchOne cname,
        .cursorClose cname],
      step pq call st' = some (sqlcaInitialize st'))
    ∧ (∃ ca : Sqlca, step pq (.cursorFetchOccurs cname) st'
        = some { sqlcaInitialize st' with sqlca := ca }
      ∧ ca.sqlcode = -212)
    ∧ (∀ nParams, ∃ ca : Sqlca,
      step pq (.cursorOpenParams cname nParams) st'
        = some { sqlcaInitialize st' with sqlca := ca }
      ∧ (ca.sqlcode = -230 ∨ ca.sqlcode = -212
        ∨ ca.sqlcode = 0
          ∧ ca.sqlerrmc = "Connection is not opened.".toList))
    ∧ ∀ call, Declares cname st' call →
      step pq call st'
        = some (setLibErrorStatus .portalExists (sqlcaInitialize st')) := by
  obtain ⟨cursor', hcursor', hopened', hgone'⟩ :=
    stranded_later h hcursor hopened hgone hlater
  have hcursor₀ : getCursorFromList cname (sqlcaInitialize st')
      = some cursor' := hcursor'
  have hclose : closeOpened pq cursor' (sqlcaInitialize st')
      = (false, sqlcaInitialize st') :=
    closeOpened_of_none hopened' hgone'
  refine ⟨?_, ?_, ?_, ?_⟩
  · intro call hcall
    simp only [List.mem_cons, List.not_mem_nil, or_false] at hcall
    rcases hcall with rfl | rfl | rfl
    · change ocesqlCursorOpen pq cname st' = _
      unfold ocesqlCursorOpen
      rw [if_neg hname, hcursor₀]
      dsimp only
      rw [hclose, if_neg Bool.false_ne_true]
    · exact ocesqlCursorFetchOne_of_none hname hcursor' hgone'
    · change some (ocesqlCursorClose pq cname st') = _
      unfold ocesqlCursorClose
      rw [if_neg hname, hcursor₀]
      dsimp only
      rw [hclose]
  · by_cases hcount : st'.table.occursIter ≤ 500
    · exact ⟨_, ocesqlCursorFetchOccurs_of_none hname hcount hcursor' hgone',
        rfl⟩
    · refine ⟨(setLibErrorStatus .empty (sqlcaInitialize st')).sqlca, ?_, rfl⟩
      exact if_pos (.inr (Nat.not_le.mp hcount))
  · intro nParams
    exact ocesqlCursorOpenParams_of_none hname hcursor' hopened' hgone'
      nParams
  · intro call hdeclares
    exact step_of_declares hname hcursor' hopened' hdeclares

/-- The cursor of the connection that is gone. -/
theorem disconnected_cursor_sample :
    (∀ call ∈ [Call.cursorOpen sampleCursor, .cursorFetchOne sampleCursor,
        .cursorClose sampleCursor],
      step Server.pq call sampleGone = some (sqlcaInitialize sampleGone))
    ∧ (∃ ca : Sqlca,
      step Server.pq (.cursorFetchOccurs sampleCursor) sampleGone
        = some { sqlcaInitialize sampleGone with sqlca := ca }
      ∧ ca.sqlcode = -212)
    ∧ (∀ nParams, ∃ ca : Sqlca,
      step Server.pq (.cursorOpenParams sampleCursor nParams) sampleGone
        = some { sqlcaInitialize sampleGone with sqlca := ca }
      ∧ (ca.sqlcode = -230 ∨ ca.sqlcode = -212
        ∨ ca.sqlcode = 0
          ∧ ca.sqlerrmc = "Connection is not opened.".toList))
    ∧ ∀ call, Declares sampleCursor sampleGone call →
      step Server.pq call sampleGone
        = some (setLibErrorStatus .portalExists
          (sqlcaInitialize sampleGone)) := by
  have hgone : run Server.pq (sampleCalls ++ [.disconnect defaultDbname])
      sampleStart = some sampleGone := by
    rw [run_append, run_sampleCalls]
    exact run_sampleGone
  exact disconnected_cursor hgone (by decide) rfl rfl rfl
    (show run Server.pq [] sampleGone = some sampleGone from rfl)

end CobolExercises.Runtime
