/-
Every call of the runtime is a number of steps of the protocol.

The hypothesis on a call is that no text it sends as a statement, or
prepares, is a DECLARE (`Call.Plain`): the runtime opens cursors only
through OPEN, and so does not notice one that is declared behind its back.
-/
import CobolExercises.Runtime.Protocol

namespace CobolExercises.Runtime

open Lib Relation Database

variable {σ : Type} {pq : Libpq σ} {rules : Rules}
  {st st' st'' : State σ} {id : Nat} {req : Request} {c : Conn}

-- =============================================================== following

/-- The second state comes from the first by steps of the protocol, and no
statement has been prepared. -/
structure Follows (pq : Libpq σ) (rules : Rules)
    (st st' : State σ) : Prop where
  steps : Core.Steps pq rules st.core st'.core
  prepares : st'.prepares = st.prepares

/-- Nothing happened. -/
theorem Follows.refl (st : State σ) : Follows pq rules st st :=
  ⟨.refl, rfl⟩

/-- Two functions one after the other. -/
theorem Follows.trans (h : Follows pq rules st st')
    (h' : Follows pq rules st' st'') : Follows pq rules st st'' :=
  ⟨h.steps.trans h'.steps, h'.prepares.trans h.prepares⟩

/-- What the protocol does not see. -/
theorem Follows.of_eq (hcore : st'.core = st.core)
    (hprepares : st'.prepares = st.prepares) : Follows pq rules st st' :=
  ⟨hcore ▸ .refl, hprepares⟩

/-- `sqlca_initialize` comes first. -/
theorem Follows.initialized
    (h : Follows pq rules (sqlcaInitialize st) st') :
    Follows pq rules st st' :=
  ⟨h.steps, h.prepares⟩

/-- One step. -/
theorem Follows.step (hstep : Core.Step pq rules st.core st'.core)
    (hprepares : st'.prepares = st.prepares) : Follows pq rules st st' :=
  ⟨ReflTransGen.single hstep, hprepares⟩

/-- SQLCA is not in the core. -/
theorem core_setResultStatus (id : Nat) (st : State σ) :
    (setResultStatus id st).2.core = st.core := by
  unfold setResultStatus
  split
  · rfl
  · split <;> rfl

/-- Nor are the prepared statements in SQLCA. -/
theorem prepares_setResultStatus (id : Nat) (st : State σ) :
    (setResultStatus id st).2.prepares = st.prepares := by
  unfold setResultStatus
  split
  · rfl
  · split <;> rfl

/-- Taking over the status is no step of the core. -/
theorem Follows.status (id : Nat) (st : State σ) :
    Follows pq rules st (setResultStatus id st).2 :=
  .of_eq (core_setResultStatus id st) (prepares_setResultStatus id st)

-- ================================================================= sending

/-- A connection that is looked up is in the list. -/
theorem mem_ids_of_lookUp (h : lookUpConnLists id st = some c) :
    id ∈ st.core.ids := by
  obtain hmem := Keyed.mem_keys_of_lookup h
  rw [Core.ids, State.core, List.map_map]
  exact hmem

/-- So is one that is found by its name. -/
theorem mem_ids_of_resolve {cid : Text}
    (h : ocdbResolveConnid cid st = some id) : id ∈ st.core.ids := by
  obtain ⟨c, hc, rfl⟩ := Option.map_eq_some_iff.mp h
  rw [Core.ids, State.core, List.map_map]
  exact List.mem_map.mpr ⟨c, Keyed.mem_of_lookup hc, rfl⟩

/-- Of the core, a request changes the server alone. -/
theorem core_ocdbSend (h : lookUpConnLists id st = some c) :
    (ocdbSend pq id req st).core
      = { st.core with server := (pq.exec id req st.server).2 } := by
  unfold ocdbSend
  rw [h]
  unfold State.core
  dsimp only
  congr 1
  exact Keyed.map_modify fun _ => rfl

/-- `sqlca_initialize` in front of a request makes no difference. -/
theorem core_ocdbSend_initialized (h : lookUpConnLists id st = some c) :
    (ocdbSend pq id req (sqlcaInitialize st)).core
      = (ocdbSend pq id req st).core := by
  have h' : lookUpConnLists id (sqlcaInitialize st) = some c := h
  rw [core_ocdbSend h, core_ocdbSend h']
  rfl

/-- A request prepares nothing in the runtime. -/
theorem prepares_ocdbSend (pq : Libpq σ) (id : Nat) (req : Request)
    (st : State σ) :
    (ocdbSend pq id req st).prepares = st.prepares := by
  unfold ocdbSend
  split <;> rfl

/-- A request that declares nothing. -/
theorem Follows.send (hreq : req.Plain rules.touches)
    (hfetch : req.fetched = none) (id : Nat) (st : State σ) :
    Follows pq rules st (ocdbSend pq id req st) := by
  cases h : lookUpConnLists id st with
  | none =>
      rw [ocdbSend_of_none h]
      exact .refl st
  | some c =>
      refine .step ?_ (prepares_ocdbSend pq id req st)
      rw [core_ocdbSend h]
      exact .request (mem_ids_of_lookUp h) hreq hfetch

/-- BEGIN leaves cursors alone, where the rules say so. -/
theorem plain_begin (hbegin : ¬rules.touches beginText) :
    (Request.exec beginText).Plain rules.touches := by
  refine ⟨rfl, ?_⟩
  intro query hquery
  obtain rfl := Option.some.inj hquery
  exact hbegin

-- ============================================================== statements

/-- A clear of the cursor list, seen by the protocol. -/
theorem core_clearCursorList (id : Nat) (st : State σ) :
    (clearCursorList id st).core
      = { st.core with cursors := Core.clear id st.core.cursors } := by
  unfold clearCursorList State.core Core.clear
  dsimp only
  congr 1
  rw [List.map_map, List.map_map]
  apply List.map_congr_left
  intro c _
  exact apply_ite Cursor.handle _ _ _

/-- An accepted COMMIT or ROLLBACK with its note, and then BEGIN. -/
theorem Follows.ended (hends : req.Ends) (hbegin : ¬rules.touches beginText)
    (h : lookUpConnLists id st = some c)
    (hok : (pq.exec id req st.server).1.isOk = true)
    (hcore : st'.core = (ocdbSend pq id req st).core)
    (hprepares : st'.prepares = st.prepares) :
    Follows pq rules st
      (ocdbExec pq id beginText (clearCursorList id st')) := by
  have hended : Follows pq rules st (clearCursorList id st') := by
    refine .step ?_ hprepares
    rw [core_clearCursorList, hcore, core_ocdbSend h]
    exact .ended (mem_ids_of_lookUp h) hends hok
  exact hended.trans (.send (plain_begin hbegin) rfl id _)

/-- A statement, and what follows an accepted COMMIT or ROLLBACK. -/
theorem Follows.afterExec {query : Text} (htext : req.text = some query)
    (hreq : req.Plain rules.touches) (hfetch : req.fetched = none)
    (hbegin : ¬rules.touches beginText) (id : Nat) (st : State σ) :
    Follows pq rules st
      (afterExec pq id query (ocdbSend pq id req st)) := by
  have hsent : Follows pq rules st
      (setResultStatus id (ocdbSend pq id req st)).2 :=
    (Follows.send hreq hfetch id st).trans (.status id _)
  unfold Runtime.afterExec
  dsimp only
  split
  case isFalse => exact hsent
  case isTrue hok =>
      split
      case isFalse => exact hsent
      case isTrue hends =>
          refine Follows.trans ?_ (.status id _)
          cases h : lookUpConnLists id st with
          | none =>
              -- without a connection there is no result to be accepted
              rw [ocdbSend_of_none h, setResultStatus, h] at hok
              cases hok
          | some c =>
              rw [setResultStatus_ocdbSend h, setReplyStatus_fst] at hok
              refine .ended ?_ hbegin h hok
                (core_setResultStatus id _) hsent.prepares
              rw [Request.Ends, htext]
              exact hends.imp (congrArg some) (congrArg some)

/-- A text without parameters. -/
theorem plain_exec {query : Text} (h : ¬rules.touches query) :
    (Request.exec query).Plain rules.touches := by
  refine ⟨rfl, ?_⟩
  intro q hq
  obtain rfl := Option.some.inj hq
  exact h

/-- A text with parameters. -/
theorem plain_execParams {query : Text} (params : List Text)
    (h : ¬rules.touches query) :
    (Request.execParams query params).Plain rules.touches := by
  refine ⟨rfl, ?_⟩
  intro q hq
  obtain rfl := Option.some.inj hq
  exact h

/-- One request, and the next BEGIN behind a COMMIT or ROLLBACK. -/
theorem follows_ocesqlExec {query : Text} (hquery : ¬rules.touches query)
    (hbegin : ¬rules.touches beginText) (id : Nat) (st : State σ) :
    Follows pq rules st (ocesqlExec pq id query st) := by
  unfold ocesqlExec
  dsimp only
  split
  · exact .of_eq rfl rfl
  · exact .initialized
      (.afterExec rfl (plain_exec hquery) rfl hbegin id (sqlcaInitialize st))

/-- The same with parameters, or none at all if they are too many. -/
theorem follows_ocesqlExecParams {query : Text} (hquery : ¬rules.touches query)
    (hbegin : ¬rules.touches beginText) (id nParams : Nat) (st : State σ) :
    Follows pq rules st (ocesqlExecParams pq id query nParams st) := by
  unfold ocesqlExecParams
  dsimp only
  split
  · exact .of_eq rfl rfl
  · split
    · exact .of_eq rfl rfl
    · split
      · exact .of_eq rfl rfl
      · exact .initialized
          (.afterExec rfl (plain_execParams _ hquery) rfl hbegin id
            (sqlcaInitialize st))

/-- The rows of a host table, one request each. -/
theorem follows_execOccursLoop {query : Text} (hquery : ¬rules.touches query)
    {indices : List Nat}
    (h : execOccursLoop pq id query indices st = some st') :
    Follows pq rules st st' := by
  induction indices generalizing st with
  | nil =>
      obtain rfl := Option.some.inj h
      exact .refl st
  | cons index rest ih =>
      rw [execOccursLoop, Option.bind_eq_bind, Option.bind_eq_some_iff] at h
      obtain ⟨texts, -, h⟩ := h
      dsimp only at h
      have hset : Follows pq rules st { st with
          sqlVars := some ((st.params.map Prod.fst).zip texts) } :=
        .of_eq rfl rfl
      have hsent : Follows pq rules st (setResultStatus id
          (ocdbExecParams pq id query texts { st with
            sqlVars := some ((st.params.map Prod.fst).zip texts) })).2 :=
        hset.trans (Follows.trans
          (.send (plain_execParams texts hquery) rfl id _) (.status id _))
      split at h
      case isTrue => exact hsent.trans (ih h)
      case isFalse =>
          obtain rfl := Option.some.inj h
          exact hsent

/-- A request for each row that is reached. -/
theorem follows_ocesqlExecParamsOccurs {query : Text}
    (hquery : ¬rules.touches query) {nParams : Nat}
    (h : ocesqlExecParamsOccurs pq id query nParams st = some st') :
    Follows pq rules st st' := by
  unfold ocesqlExecParamsOccurs at h
  dsimp only at h
  split at h
  · obtain rfl := Option.some.inj h
    exact .of_eq rfl rfl
  · split at h
    · exact .initialized (follows_execOccursLoop hquery h)
    · cases h

/-- The prepared statements handle no cursors themselves. -/
def PreparedPlain (touches : Text → Prop) (st : State σ) : Prop :=
  ∀ prepare ∈ st.prepares, ¬touches prepare.query

/-- The text is one that was prepared before, and plain then. -/
theorem follows_ocesqlExecPrepare (hprepared : PreparedPlain rules.touches st)
    (hbegin : ¬rules.touches beginText) {sname : Text} {nParams : Nat}
    (h : ocesqlExecPrepare pq id sname nParams st = some st') :
    Follows pq rules st st' := by
  unfold ocesqlExecPrepare at h
  dsimp only at h
  split at h
  case h_1 =>
      obtain rfl := Option.some.inj h
      exact .of_eq rfl rfl
  case h_2 prepare hprepare =>
      have hquery := hprepared prepare (Keyed.mem_of_lookup hprepare)
      split at h
      case isTrue =>
          obtain rfl := Option.some.inj h
          exact .of_eq rfl rfl
      case isFalse =>
          split at h
          case isTrue => cases h
          case isFalse =>
              -- both branches send the statement
              obtain ⟨req, htext, hplain, hfetch, hsend⟩ : ∃ req : Request,
                  req.text = some prepare.query ∧ req.Plain rules.touches
                  ∧ req.fetched = none
                  ∧ (if 0 < nParams then
                      ocdbExecParams pq id prepare.query
                        ((sqlcaInitialize st).params.map Prod.snd)
                        (sqlcaInitialize st)
                    else ocdbExec pq id prepare.query (sqlcaInitialize st))
                    = ocdbSend pq id req (sqlcaInitialize st) := by
                split
                · exact ⟨_, rfl, plain_execParams _ hquery, rfl, rfl⟩
                · exact ⟨_, rfl, plain_exec hquery, rfl, rfl⟩
              rw [hsend] at h
              have hsent : Follows pq rules (sqlcaInitialize st)
                  (setResultStatus id
                    (ocdbSend pq id req (sqlcaInitialize st))).2 :=
                (Follows.send hplain hfetch id _).trans (.status id _)
              refine .initialized ?_
              split at h
              case isFalse =>
                  obtain rfl := Option.some.inj h
                  exact hsent
              case isTrue hok =>
                  obtain rfl := Option.some.inj h
                  -- COMMIT and ROLLBACK can be prepared too
                  obtain ⟨hok, hends⟩ := hok
                  cases hconn : lookUpConnLists id (sqlcaInitialize st) with
                  | none =>
                      rw [ocdbSend_of_none hconn, setResultStatus, hconn]
                        at hok
                      cases hok
                  | some c =>
                      rw [setResultStatus_ocdbSend hconn,
                        setReplyStatus_fst] at hok
                      refine .ended ?_ hbegin hconn hok
                        (core_setResultStatus id _) hsent.prepares
                      rw [Request.Ends, htext]
                      exact hends.imp (congrArg some) (congrArg some)

-- ================================================================= cursors

/-- A cursor in the list, as the protocol sees it. -/
theorem lookup_handle {cname : Text} {cursor : Cursor}
    (h : getCursorFromList cname st = some cursor) :
    Keyed.lookup Handle.cname cname st.core.cursors = some cursor.handle := by
  have hmap : Keyed.lookup Handle.cname cname
        (st.cursors.map Cursor.handle)
      = (Keyed.lookup Cursor.cname cname st.cursors).map Cursor.handle :=
    Keyed.lookup_map fun _ => rfl
  exact hmap.trans (congrArg (Option.map Cursor.handle) h)

/-- A cursor the runtime does not find is not in the core. -/
theorem lookup_handle_none {cname : Text}
    (h : getCursorFromList cname st = none) :
    Keyed.lookup Handle.cname cname st.core.cursors = none := by
  have hmap : Keyed.lookup Handle.cname cname
        (st.cursors.map Cursor.handle)
      = (Keyed.lookup Cursor.cname cname st.cursors).map Cursor.handle :=
    Keyed.lookup_map fun _ => rfl
  exact hmap.trans (congrArg (Option.map Cursor.handle) h)

/-- A registration of a free cursor. -/
theorem Follows.register {cname : Text} {f : Cursor → Cursor}
    (hid : id ∈ st.core.ids) (hfree : cursorIsFree cname st = true)
    (hf : ∀ c, (f c).handle
      = { c.handle with connid := id, isOpened := false, tuples := 0 }) :
    Follows pq rules st (registerCursor cname f st) := by
  refine .step ?_ rfl
  have hcore : (registerCursor cname f st).core
      = { st.core with
          cursors := Core.register cname id st.core.cursors } := by
    unfold registerCursor State.core Core.register
    dsimp only
    congr 1
    exact Keyed.map_put (fun _ => rfl) hf
  rw [hcore]
  refine .registered hid ?_
  intro h hlook
  unfold cursorIsFree at hfree
  cases hcur : getCursorFromList cname st with
  | none =>
      rw [lookup_handle_none hcur] at hlook
      cases hlook
  | some cursor =>
      rw [lookup_handle hcur] at hlook
      obtain rfl := Option.some.inj hlook
      rw [hcur] at hfree
      show cursor.isOpened = false
      simpa using hfree

/-- The cursor is registered, or registered anew. -/
theorem Follows.addCursorList {cname query : Text} {nParams : Nat}
    (hid : id ∈ st.core.ids) (hfree : cursorIsFree cname st = true)
    (h : addCursorList id cname query nParams st = some st') :
    Follows pq rules st st' := by
  unfold Runtime.addCursorList at h
  split at h
  · obtain rfl := Option.some.inj h
    exact .register hid hfree fun _ => rfl
  · cases h

/-- DECLARE of a free cursor registers it, any other one is an error; the
server hears of neither. -/
theorem follows_ocesqlCursorDeclare {cname query : Text} {nParams : Nat}
    (hid : id ∈ st.core.ids)
    (h : ocesqlCursorDeclare id cname query nParams st = some st') :
    Follows pq rules st st' := by
  unfold ocesqlCursorDeclare at h
  dsimp only at h
  split at h
  · obtain rfl := Option.some.inj h
    exact .of_eq rfl rfl
  · split at h
    case isTrue hfree =>
        obtain ⟨st₁, hadd, rfl⟩ := Option.map_eq_some_iff.mp h
        refine .initialized (.trans (.addCursorList hid hfree hadd) ?_)
        split
        · exact .of_eq rfl rfl
        · exact .refl st₁
    case isFalse =>
        obtain rfl := Option.some.inj h
        exact .of_eq rfl rfl

/-- The text is looked up when the cursor is opened. -/
theorem follows_ocesqlPreparedCursorDeclare (hid : id ∈ st.core.ids)
    (cname sname : Text) :
    Follows pq rules st (ocesqlPreparedCursorDeclare id cname sname st) := by
  unfold ocesqlPreparedCursorDeclare
  dsimp only
  split
  · exact .of_eq rfl rfl
  · split
    · exact .of_eq rfl rfl
    · split
      case isTrue hfree =>
          exact .initialized (.register hid hfree fun _ => rfl)
      case isFalse => exact .of_eq rfl rfl

/-- A note about a cursor, seen by the protocol. -/
theorem core_setOpened (cname : Text) (opened : Bool) (st : State σ) :
    (setOpened cname opened st).core
      = { st.core with
          cursors := Core.note cname opened st.core.cursors } := by
  unfold setOpened setCursor State.core Core.note
  dsimp only
  congr 1
  exact Keyed.map_modify_comm (fun _ => rfl) fun _ => rfl

/-- CLOSE and its note. -/
theorem Follows.closeOpened {cname : Text} {cursor : Cursor}
    (h : getCursorFromList cname st = some cursor) :
    Follows pq rules st (closeOpened pq cursor st).2 := by
  have hplain : (Request.cursorClose cursor.cname).Plain rules.touches :=
    ⟨rfl, nofun⟩
  have hname : cursor.cname = cname := Keyed.key_of_lookup h
  unfold Runtime.closeOpened
  dsimp only
  split
  case isFalse => exact .refl st
  case isTrue =>
      have hsent : Follows pq rules st (setResultStatus cursor.connid
          (ocdbCursorClose pq cursor.connid cursor.cname st)).2 :=
        Follows.trans (.send hplain rfl cursor.connid st) (.status _ _)
      split
      case isFalse => exact hsent
      case isTrue hok =>
          cases hconn : lookUpConnLists cursor.connid st with
          | none =>
              rw [ocdbCursorClose, ocdbSend_of_none hconn, setResultStatus,
                hconn] at hok
              cases hok
          | some c =>
              rw [ocdbCursorClose, setResultStatus_ocdbSend hconn,
                setReplyStatus_fst] at hok
              refine .step ?_ hsent.prepares
              rw [core_setOpened, core_setResultStatus, ocdbCursorClose,
                core_ocdbSend hconn]
              refine Core.Step.closed (h := cursor.handle) ?_
                (mem_ids_of_lookUp hconn) hok
              rw [show cursor.handle.cname = cname from hname]
              exact lookup_handle h

/-- Behind a CLOSE that went well the cursor is noted as closed, and the
cursor is the same otherwise. -/
theorem getCursorFromList_closeOpened {cname : Text} {cursor : Cursor}
    (h : getCursorFromList cname st = some cursor)
    (hok : (closeOpened pq cursor st).1 = true) :
    getCursorFromList cname (closeOpened pq cursor st).2
      = some { cursor with isOpened := false } := by
  obtain rfl : cursor.cname = cname := Keyed.key_of_lookup h
  have hcursors : (setResultStatus cursor.connid
      (ocdbCursorClose pq cursor.connid cursor.cname st)).2.cursors
      = st.cursors := by
    unfold setResultStatus ocdbCursorClose ocdbSend
    cases lookUpConnLists cursor.connid st with
    | none =>
        dsimp only
        split
        · rfl
        · split <;> rfl
    | some c =>
        dsimp only
        split
        · rfl
        · split <;> rfl
  unfold closeOpened at hok ⊢
  dsimp only at hok ⊢
  split at hok
  case isFalse hclosed =>
      rw [if_neg hclosed]
      rw [h]
      congr 1
      rw [Bool.not_eq_true] at hclosed
      rw [← hclosed]
  case isTrue hopened =>
      rw [if_pos hopened]
      split at hok
      case isFalse => cases hok
      case isTrue hstatus =>
          rw [if_pos hstatus]
          unfold getCursorFromList setOpened setCursor
          dsimp only
          rw [hcursors]
          exact Keyed.lookup_modify_self
            (f := fun c => { c with isOpened := false }) (fun _ => rfl) h

/-- DECLARE, the dummy OPEN and their note. -/
theorem Follows.finishOpen {cname : Text} {cursor : Cursor}
    (h : getCursorFromList cname st = some { cursor with isOpened := false })
    (hreq : req.declared = some cname) (hopens : rules.opens cname) :
    Follows pq rules st
      (finishOpen cursor (ocdbSend pq cursor.connid req st)) := by
  have hname : Cursor.cname { cursor with isOpened := false } = cname :=
    Keyed.key_of_lookup h
  dsimp only at hname
  have hprepares := prepares_ocdbSend pq cursor.connid req st
  unfold Runtime.finishOpen
  dsimp only
  cases hconn : lookUpConnLists cursor.connid st with
  | none =>
      rw [ocdbSend_of_none hconn]
      have hstatus : setResultStatus cursor.connid st = (false, st) := by
        unfold setResultStatus
        rw [hconn]
      rw [hstatus, if_neg Bool.false_ne_true]
      exact .refl st
  | some c =>
      rw [setResultStatus_ocdbSend hconn]
      have hfst := setReplyStatus_fst
        (pq.exec cursor.connid req st.server).1
        (ocdbSend pq cursor.connid req st)
      split
      case isFalse hrefused =>
          rw [Bool.not_eq_true, hfst] at hrefused
          obtain ⟨ca, n, hstatus⟩ := setReplyStatus_snd
            (pq.exec cursor.connid req st.server).1
            (ocdbSend pq cursor.connid req st)
          rw [hstatus]
          refine .step ?_ hprepares
          show Core.Step pq rules st.core
            (ocdbSend pq cursor.connid req st).core
          rw [core_ocdbSend hconn]
          exact .refused (mem_ids_of_lookUp hconn) hreq hrefused
      case isTrue haccepted =>
          rw [hfst] at haccepted
          -- the dummy OPEN finds the connection and always works
          have hlook : lookUpConnLists cursor.connid (setReplyStatus
              (pq.exec cursor.connid req st.server).1
              (ocdbSend pq cursor.connid req st)).2 = some _ :=
            (lookUpConnLists_setReplyStatus _ _ _).trans
              (lookUpConnLists_ocdbSend hconn)
          obtain ⟨ca, n, hstatus⟩ := setReplyStatus_snd
            (pq.exec cursor.connid req st.server).1
            (ocdbSend pq cursor.connid req st)
          rw [setResultStatus_ocdbCursorOpen hlook, if_pos rfl, hstatus]
          refine .step ?_ hprepares
          have hcore : (ocdbCursorOpen cursor.connid
              { ocdbSend pq cursor.connid req st with
                sqlca := ca, sqlerrd := n }).core
              = (ocdbSend pq cursor.connid req st).core := by
            unfold ocdbCursorOpen State.core
            dsimp only
            congr 1
            exact Keyed.map_modify fun _ => rfl
          rw [core_setOpened, hcore, core_ocdbSend hconn]
          refine Core.Step.opened
            (h := ⟨cursor.cname, cursor.connid, false, cursor.tuples⟩)
            ?_ rfl (mem_ids_of_lookUp hconn) ?_ ?_ haccepted
          · rw [hname]
            exact (lookup_handle h).trans (by rw [← hname]; rfl)
          · rw [hname]
            exact hopens
          · rw [hname]
            exact hreq

/-- All three ways to declare a cursor declare it under its name. -/
theorem declareOpened_eq {cursor : Cursor}
    (h : declareOpened pq cursor st = some st') :
    ∃ req : Request, req.declared = some cursor.cname
      ∧ st' = ocdbSend pq cursor.connid req st := by
  unfold declareOpened at h
  split at h
  case isTrue =>
      split at h
      case isTrue => cases h
      case isFalse =>
          rw [Option.bind_eq_bind, Option.bind_eq_some_iff] at h
          obtain ⟨texts, -, h⟩ := h
          obtain rfl := Option.some.inj h
          exact ⟨_, rfl, rfl⟩
  case isFalse =>
      split at h
      · obtain rfl := Option.some.inj h
        exact ⟨_, rfl, rfl⟩
      · obtain rfl := Option.some.inj h
        exact ⟨_, rfl, rfl⟩

/-- What an OPEN comes to: an error before anything is sent, a CLOSE in front
of it that fails, or a DECLARE behind it. -/
inductive OpenCases (pq : Libpq σ) (cname : Text) (st st' : State σ) : Prop
  | unsent {ca : Sqlca} (heq : st' = { sqlcaInitialize st with sqlca := ca })
      (hcode : ca.sqlcode ≠ -605)
  | notClosed {cursor : Cursor} {ca : Sqlca}
      (hcursor : getCursorFromList cname st = some cursor)
      (heq : st'
        = { (closeOpened pq cursor (sqlcaInitialize st)).2 with sqlca := ca })
      (hcode : ca.sqlcode
        = (closeOpened pq cursor (sqlcaInitialize st)).2.sqlca.sqlcode)
  | declared {cursor : Cursor} {req : Request}
      (hcursor : getCursorFromList cname st = some cursor)
      (hok : (closeOpened pq cursor (sqlcaInitialize st)).1 = true)
      (hreq : req.declared = some cname)
      (heq : st' = finishOpen cursor (ocdbSend pq cursor.connid req
        (closeOpened pq cursor (sqlcaInitialize st)).2))

/-- OPEN without host variables of its own. -/
theorem open_cases {cname : Text}
    (h : ocesqlCursorOpen pq cname st = some st') :
    OpenCases pq cname st st' := by
  unfold ocesqlCursorOpen at h
  dsimp only at h
  split at h
  case isTrue =>
      obtain rfl := Option.some.inj h
      exact .unsent rfl (by decide : (-212 : Int) ≠ -605)
  case isFalse =>
      split at h
      case h_1 =>
          obtain rfl := Option.some.inj h
          exact .unsent rfl (by decide : (-602 : Int) ≠ -605)
      case h_2 cursor hcursor =>
          have hname : cursor.cname = cname := Keyed.key_of_lookup hcursor
          split at h
          case isFalse =>
              obtain rfl := Option.some.inj h
              exact .notClosed hcursor rfl rfl
          case isTrue hok =>
              obtain ⟨st₂, hdeclare, rfl⟩ := Option.map_eq_some_iff.mp h
              obtain ⟨req, hreq, rfl⟩ := declareOpened_eq hdeclare
              exact .declared hcursor hok (hname ▸ hreq) rfl

/-- OPEN with host variables, for a prepared statement. -/
theorem openParams_cases {cname : Text} {nParams : Nat}
    (h : ocesqlCursorOpenParams pq cname nParams st = some st') :
    OpenCases pq cname st st' := by
  unfold ocesqlCursorOpenParams at h
  dsimp only at h
  split at h
  case isTrue =>
      obtain rfl := Option.some.inj h
      exact .unsent rfl (by decide : (-212 : Int) ≠ -605)
  case isFalse =>
      split at h
      case h_1 =>
          obtain rfl := Option.some.inj h
          exact .unsent rfl (by decide : (-602 : Int) ≠ -605)
      case h_2 cursor hcursor =>
          have hname : cursor.cname = cname := Keyed.key_of_lookup hcursor
          split at h
          case h_1 =>
              -- the cursor was declared for no prepared statement
              obtain rfl := Option.some.inj h
              exact .unsent rfl (by decide : (-230 : Int) ≠ -605)
          case h_2 =>
              split at h
              case isTrue =>
                  obtain rfl := Option.some.inj h
                  exact .unsent rfl (by decide : (-212 : Int) ≠ -605)
              case isFalse =>
                  split at h
                  case isFalse =>
                      obtain rfl := Option.some.inj h
                      unfold setResultErrorMessage
                      split
                      · exact .notClosed hcursor rfl rfl
                      · exact .notClosed hcursor rfl rfl
                  case isTrue hok =>
                      split at h
                      case isTrue => cases h
                      case isFalse =>
                          obtain rfl := Option.some.inj h
                          exact .declared hcursor hok (hname ▸ rfl) rfl

/-- An OPEN, as steps of the protocol: the cursor is closed if it is open,
and its portal declared. -/
theorem Follows.opening {cname : Text} (hopens : rules.opens cname)
    (h : OpenCases pq cname st st') : Follows pq rules st st' := by
  cases h with
  | unsent heq hcode =>
      subst heq
      exact .of_eq rfl rfl
  | notClosed hcursor heq hcode =>
      subst heq
      exact .initialized (.trans (.closeOpened hcursor) (.of_eq rfl rfl))
  | declared hcursor hok hreq heq =>
      subst heq
      exact .initialized (.trans (.closeOpened hcursor)
        (.finishOpen (getCursorFromList_closeOpened hcursor hok) hreq hopens))

/-- CLOSE of a cursor that is there; of any other one nothing. -/
theorem follows_ocesqlCursorClose (cname : Text) (st : State σ) :
    Follows pq rules st (ocesqlCursorClose pq cname st) := by
  unfold ocesqlCursorClose
  dsimp only
  split
  · exact .of_eq rfl rfl
  · split
    case h_1 => exact .of_eq rfl rfl
    case h_2 cursor hcursor =>
        exact .initialized (.closeOpened hcursor)

-- =================================================================== fetch

/-- A count of rows, seen by the protocol. -/
theorem core_addTuples (cname : Text) (n : Int) (st : State σ) :
    (addTuples cname n st).core
      = { st.core with cursors := Core.count cname n st.core.cursors } := by
  unfold addTuples setCursor State.core Core.count
  dsimp only
  congr 1
  exact Keyed.map_modify_comm (fun _ => rfl) fun _ => rfl

/-- Storing a row is no step of the core. -/
theorem Follows.storeFirst {row : List Text}
    (h : storeFirst row st = some st') : Follows pq rules st st' := by
  obtain ⟨mem, -, rfl⟩ := Option.map_eq_some_iff.mp h
  exact .of_eq rfl rfl

/-- Nor is storing as many as fit. -/
theorem Follows.storeTable {rows : List (List Text)}
    (h : storeTable rows st = some st') : Follows pq rules st st' := by
  obtain ⟨mem, -, rfl⟩ := Option.map_eq_some_iff.mp h
  exact .of_eq rfl rfl

/-- What the server says to a request about a cursor of the list. -/
def cursorReply (pq : Libpq σ) (cname : Text) (req : Request)
    (st : State σ) : Reply :=
  (getCursorFromList cname st).bind fun cursor =>
    ocdbReply pq cursor.connid req st

/-- What a cursor is answered is what its connection is answered. -/
theorem cursorReply_eq {cname : Text} {cursor : Cursor}
    (h : getCursorFromList cname st = some cursor) :
    cursorReply pq cname req st = ocdbReply pq cursor.connid req st := by
  unfold cursorReply
  rw [h, Option.bind_some]

/-- The request of a FETCH, if it gets as far as sending one. -/
def Call.request (st : State σ) : Call → Option Request
  | .cursorFetchOne cname =>
      if cname = [] then none else some (.cursorFetchOne cname)
  | .cursorFetchOccurs cname =>
      if cname = [] ∨ 500 < st.table.occursIter then none
      else some (.cursorFetchOccurs cname st.table.occursIter)
  | _ => none

/-- What the server says to a FETCH of a cursor. -/
def fetchReply (pq : Libpq σ) (cname : Text) (call : Call) (st : State σ) :
    Reply :=
  (call.request st).bind fun req => cursorReply pq cname req st

/-- What a FETCH does to what the protocol sees: nothing is sent; or it is
sent, and its rows are not counted, because there are none or nothing takes
them (SQLCODE -212); or they are counted. -/
inductive FetchCases (pq : Libpq σ) (cname : Text) (call : Call)
    (st st' : State σ) : Prop
  | unsent (hcore : st'.core = st.core)
      (hnone : fetchReply pq cname call st = none)
  | skipped {req : Request} {cursor : Cursor} {c : Conn}
      (hrequest : call.request st = some req)
      (hreq : req.fetched = some cname)
      (hcursor : getCursorFromList cname st = some cursor)
      (hconn : lookUpConnLists cursor.connid st = some c)
      (hcore : st'.core = (ocdbSend pq cursor.connid req st).core)
      (hskip : (pq.exec cursor.connid req st.server).1.rows = []
        ∨ st'.sqlca.sqlcode = -212)
  | counted {req : Request} {cursor : Cursor} {c : Conn}
      (hrequest : call.request st = some req)
      (hreq : req.fetched = some cname)
      (hcursor : getCursorFromList cname st = some cursor)
      (hconn : lookUpConnLists cursor.connid st = some c)
      (hcore : st'.core = (addTuples cname
        (req.taken (pq.exec cursor.connid req st.server).1)
        (ocdbSend pq cursor.connid req st)).core)
      (hcode : st'.sqlca.sqlcode = 0)

/-- A FETCH whose request is not answered stores nothing. -/
theorem fetchReply_none {cname : Text} {call : Call}
    (h : ∀ req, call.request st = some req →
      cursorReply pq cname req st = none) :
    fetchReply pq cname call st = none := by
  unfold fetchReply
  cases hrequest : call.request st with
  | none => rfl
  | some req => exact h req hrequest

/-- SQLCA and the storage of the program are not part of it. -/
theorem fetchOne_cases {cname : Text}
    (h : ocesqlCursorFetchOne pq cname st = some st') :
    st'.prepares = st.prepares
      ∧ FetchCases pq cname (.cursorFetchOne cname) st st' := by
  by_cases hname : cname = []
  · rw [ocesqlCursorFetchOne, if_pos hname] at h
    obtain rfl := Option.some.inj h
    refine ⟨rfl, .unsent rfl ?_⟩
    rw [fetchReply, Call.request, if_pos hname, Option.bind_none]
  · have hrequest : (Call.cursorFetchOne cname).request st
        = some (.cursorFetchOne cname) := if_neg hname
    cases hcursor : getCursorFromList cname st with
    | none =>
        unfold ocesqlCursorFetchOne at h
        rw [if_neg hname, show getCursorFromList cname (sqlcaInitialize st)
          = none from hcursor] at h
        obtain rfl := Option.some.inj h
        refine ⟨rfl, .unsent rfl (fetchReply_none fun req _ => ?_)⟩
        rw [cursorReply, hcursor, Option.bind_none]
    | some cursor =>
        cases hconn : lookUpConnLists cursor.connid st with
        | none =>
            rw [ocesqlCursorFetchOne_of_none hname hcursor hconn] at h
            obtain rfl := Option.some.inj h
            refine ⟨rfl, .unsent rfl (fetchReply_none fun req _ => ?_)⟩
            rw [cursorReply_eq hcursor, ocdbReply_of_none hconn]
        | some c =>
            have hprepares := prepares_ocdbSend pq cursor.connid
              (.cursorFetchOne cname) (sqlcaInitialize st)
            have hsent : (ocdbSend pq cursor.connid (.cursorFetchOne cname)
                (sqlcaInitialize st)).core = (ocdbSend pq cursor.connid
                  (.cursorFetchOne cname) st).core :=
              core_ocdbSend_initialized hconn
            have hcases := ocesqlCursorFetchOne_cases hname hcursor hconn h
              rfl rfl
            obtain ⟨ca, n, hstatus⟩ := setReplyStatus_snd
              (pq.exec cursor.connid (.cursorFetchOne cname) st.server).1
              (ocdbCursorFetchOne pq cursor.connid cname (sqlcaInitialize st))
            -- rows come with SQLCODE 0, so they are counted
            have hcode : (pq.exec cursor.connid (.cursorFetchOne cname)
                st.server).1.rows ≠ [] → ca.sqlcode = 0 := by
              intro hrows
              have hzero := congrArg (fun st => st.sqlca.sqlcode) hstatus
              exact hzero.symm.trans (setReplyStatus_sqlcode_of_rows hrows)
            rw [hstatus] at hcases
            rcases hcases with ⟨hrefused, rfl⟩ | rfl | ⟨hnil, rfl⟩
              | ⟨row, rest, mem, hrow, -, -, rfl⟩
            · exact ⟨hprepares, .skipped hrequest rfl hcursor hconn hsent
                (.inl (Reply.rows_of_refused hrefused))⟩
            · exact ⟨hprepares, .skipped hrequest rfl hcursor hconn hsent
                (.inr rfl)⟩
            · exact ⟨hprepares, .skipped hrequest rfl hcursor hconn hsent
                (.inl hnil)⟩
            · refine ⟨hprepares, .counted hrequest rfl hcursor hconn ?_
                (hcode (hrow ▸ List.cons_ne_nil row rest))⟩
              rw [core_addTuples, ← hsent, ← core_addTuples]
              rfl

/-- The same for a host table. -/
theorem fetchOccurs_cases {cname : Text}
    (h : ocesqlCursorFetchOccurs pq cname st = some st') :
    st'.prepares = st.prepares
      ∧ FetchCases pq cname (.cursorFetchOccurs cname) st st' := by
  by_cases hguard : cname = [] ∨ 500 < st.table.occursIter
  · unfold ocesqlCursorFetchOccurs at h
    dsimp only at h
    rw [if_pos (show cname = [] ∨ 500 < (sqlcaInitialize st).table.occursIter
      from hguard)] at h
    obtain rfl := Option.some.inj h
    refine ⟨rfl, .unsent rfl ?_⟩
    rw [fetchReply, Call.request, if_pos hguard, Option.bind_none]
  · have hrequest : (Call.cursorFetchOccurs cname).request st
        = some (.cursorFetchOccurs cname st.table.occursIter) :=
      if_neg hguard
    obtain ⟨hname, hcount⟩ := not_or.mp hguard
    rw [Nat.not_lt] at hcount
    cases hcursor : getCursorFromList cname st with
    | none =>
        unfold ocesqlCursorFetchOccurs at h
        rw [if_neg (show ¬(cname = []
            ∨ 500 < (sqlcaInitialize st).table.occursIter) from hguard),
          show getCursorFromList cname (sqlcaInitialize st) = none
            from hcursor] at h
        obtain rfl := Option.some.inj h
        refine ⟨rfl, .unsent rfl (fetchReply_none fun req _ => ?_)⟩
        rw [cursorReply, hcursor, Option.bind_none]
    | some cursor =>
        cases hconn : lookUpConnLists cursor.connid st with
        | none =>
            rw [ocesqlCursorFetchOccurs_of_none hname hcount hcursor hconn]
              at h
            obtain rfl := Option.some.inj h
            refine ⟨rfl, .unsent rfl (fetchReply_none fun req _ => ?_)⟩
            rw [cursorReply_eq hcursor, ocdbReply_of_none hconn]
        | some c =>
            have hprepares := prepares_ocdbSend pq cursor.connid
              (.cursorFetchOccurs cname st.table.occursIter)
              (sqlcaInitialize st)
            have hsent : (ocdbSend pq cursor.connid
                (.cursorFetchOccurs cname st.table.occursIter)
                (sqlcaInitialize st)).core = (ocdbSend pq cursor.connid
                  (.cursorFetchOccurs cname st.table.occursIter) st).core :=
              core_ocdbSend_initialized hconn
            -- SQLCODE is that of the beginning, as no status is taken over
            have hcode : (ocdbCursorFetchOccurs pq cursor.connid cname
                st.table.occursIter (sqlcaInitialize st)).sqlca.sqlcode
                = 0 := by
              have hconn' : lookUpConnLists cursor.connid
                  (sqlcaInitialize st) = some c := hconn
              rw [ocdbCursorFetchOccurs, ocdbSend_of_some hconn']
              rfl
            rcases ocesqlCursorFetchOccurs_cases hname hcount hcursor hconn h
              rfl rfl with rfl | ⟨hnil, rfl⟩ | ⟨st₂, hrows, -, hstore, rfl⟩
            · exact ⟨hprepares, .skipped hrequest rfl hcursor hconn hsent
                (.inr rfl)⟩
            · exact ⟨hprepares, .skipped hrequest rfl hcursor hconn hsent
                (.inl hnil)⟩
            · obtain ⟨mem, -, rfl⟩ := Option.map_eq_some_iff.mp hstore
              refine ⟨hprepares,
                .counted hrequest rfl hcursor hconn ?_ hcode⟩
              rw [core_addTuples, ← hsent, ← core_addTuples]
              rfl

/-- A FETCH, as a step of the protocol. -/
theorem Follows.fetch {cname : Text} {call : Call}
    (hfetches : rules.fetches cname)
    (h : st'.prepares = st.prepares ∧ FetchCases pq cname call st st') :
    Follows pq rules st st' := by
  obtain ⟨hprepares, hcases⟩ := h
  cases hcases with
  | unsent hcore => exact .of_eq hcore hprepares
  | @skipped req cursor c hrequest hreq hcursor hconn hcore =>
      obtain rfl : cursor.cname = cname := Keyed.key_of_lookup hcursor
      refine .step ?_ hprepares
      rw [hcore, core_ocdbSend hconn]
      exact .skipped (lookup_handle hcursor) (mem_ids_of_lookUp hconn)
        hfetches hreq
  | @counted req cursor c hrequest hreq hcursor hconn hcore =>
      obtain rfl : cursor.cname = cname := Keyed.key_of_lookup hcursor
      refine .step ?_ hprepares
      rw [hcore, core_addTuples, core_ocdbSend hconn]
      exact .fetched (lookup_handle hcursor) (mem_ids_of_lookUp hconn)
        hfetches hreq

/-- The rows of a SELECT INTO are only stored. -/
theorem Follows.storeSelected {nResParams : Nat}
    {store : List (List Text) → State σ → Option (State σ)}
    (hstore : ∀ {rows st st'}, store rows st = some st' →
      Follows pq rules st st')
    (h : storeSelected id nResParams store st = some st') :
    Follows pq rules st st' := by
  unfold Runtime.storeSelected at h
  dsimp only at h
  refine Follows.trans (.status id st) ?_
  split at h
  case isFalse =>
      obtain rfl := Option.some.inj h
      exact .refl _
  case isTrue =>
      split at h
      case isTrue =>
          obtain rfl := Option.some.inj h
          exact .of_eq rfl rfl
      case isFalse =>
          split at h
          case h_1 =>
              obtain rfl := Option.some.inj h
              exact .of_eq rfl rfl
          case h_2 => exact hstore h

/-- A SELECT INTO sends its text, with parameters or without. -/
theorem follows_execSelect {query : Text} (hquery : ¬rules.touches query)
    (hbegin : ¬rules.touches beginText) (id nParams : Nat) (st : State σ) :
    Follows pq rules st (execSelect pq id query nParams st) := by
  unfold execSelect
  split
  · exact follows_ocesqlExecParams hquery hbegin id nParams st
  · exact follows_ocesqlExec hquery hbegin id st

-- ============================================================= connections

/-- A name that is not resolved is not taken. -/
theorem lookup_cid_none {name : Text} (h : ocdbResolveConnid name st = none) :
    name ∉ st.core.conns.map Prod.snd := by
  rw [ocdbResolveConnid, Option.map_eq_none_iff,
    Keyed.lookup_eq_none_iff] at h
  rw [State.core, List.map_map]
  exact h

/-- A new connection, whatever becomes of it. -/
theorem follows_ocesqlConnectNew (hbegin : ¬rules.touches beginText)
    (connstr name : Text) (st : State σ) :
    Follows pq rules st (ocesqlConnectNew pq connstr name st) := by
  unfold ocesqlConnectNew ocdbConnect
  dsimp only
  cases hconn : (pq.connectdb st.nextConnId connstr st.server).1 with
  | false =>
      rw [if_neg Bool.false_ne_true]
      exact .step (.notConnected hconn) rfl
  | true =>
      rw [if_pos rfl]
      cases hlook : Keyed.lookup Conn.cid name st.conns with
      | some c => exact .step .dropped rfl
      | none =>
          have hname : name ∉ st.core.conns.map Prod.snd := by
            apply lookup_cid_none
            rw [ocdbResolveConnid, hlook]
            rfl
          refine Follows.trans (?_ : Follows pq rules st
            (createConn name { st with
              server := (pq.connectdb st.nextConnId connstr st.server).2 }))
            (Follows.trans (.send (plain_begin hbegin) rfl _ _) (.status _ _))
          refine .step ?_ rfl
          have hcore : (createConn name { st with
              server := (pq.connectdb st.nextConnId connstr st.server).2
              : State σ }).core
              = { st.core with
                server := (pq.connectdb st.nextConnId connstr st.server).2
                conns := st.core.conns ++ [(st.nextConnId, name)]
                next := st.nextConnId + 1 } := by
            unfold createConn State.core
            dsimp only
            rw [List.map_append, List.map_singleton]
          rw [hcore]
          exact .connected hname

/-- The connection leaves the list; its cursors stay in theirs. -/
theorem Follows.ocdbFinish (id : Nat) (st : State σ) :
    Follows pq rules st (ocdbFinish pq id st) := by
  unfold Runtime.ocdbFinish
  cases h : lookUpConnLists id st with
  | none => exact .refl st
  | some c =>
      refine .step ?_ rfl
      have herase : (Keyed.erase Conn.id id st.conns).map
            (fun c => (c.id, c.cid))
          = Keyed.erase Prod.fst id
            (st.conns.map fun c => (c.id, c.cid)) := by
        rw [Keyed.erase, Keyed.erase, List.eraseP_map]
        rfl
      show Core.Step pq rules st.core
        ⟨pq.finish id st.server, (Keyed.erase Conn.id id st.conns).map
          (fun c => (c.id, c.cid)), _, _⟩
      rw [herase]
      exact .finished (mem_ids_of_lookUp h)

/-- A connection that is up is kept, one that is down is replaced by another
id. -/
theorem follows_ocesqlConnectMain (hbegin : ¬rules.touches beginText)
    (connstr name : Text) (st : State σ) :
    Follows pq rules st (ocesqlConnectMain pq connstr name st) := by
  unfold ocesqlConnectMain
  dsimp only
  refine .initialized ?_
  split
  · split
    · exact .refl _
    · exact (Follows.ocdbFinish _ _).trans
        (follows_ocesqlConnectNew hbegin connstr name _)
  · exact follows_ocesqlConnectNew hbegin connstr name _

-- ================================================================ the calls

/-- No text that is sent as a statement or prepared handles cursors, and only
the cursors allowed are opened and fetched from. -/
def Call.Plain (rules : Rules) : Call → Prop
  | .exec _ query | .execParams _ query _ | .execParamsOccurs _ query _
  | .selectIntoOne _ query _ _ | .selectIntoOccurs _ query _ _ =>
      ¬rules.touches query
  | .prepare _ query => ¬rules.touches (getStrReplaceHostvalue query).1
  | .cursorOpen cname | .cursorOpenParams cname _ => rules.opens cname
  | .cursorFetchOne cname | .cursorFetchOccurs cname => rules.fetches cname
  | _ => True

/-- The cursor a call fetches from. -/
def Call.fetched : Call → Option Text
  | .cursorFetchOne cname | .cursorFetchOccurs cname => some cname
  | _ => none

/-- A call over a connection: the connection is not there, or the call
happens. -/
theorem withConnection_cases {atdb : Text}
    {call : Nat → State σ → Option (State σ)}
    (h : withConnection atdb call st = some st') :
    st' = setLibErrorStatus .noConn (setLibErrorStatus .empty st)
      ∨ ∃ id ∈ st.core.ids, call id st = some st' := by
  unfold withConnection at h
  split at h
  case h_1 =>
      obtain rfl := Option.some.inj h
      exact .inl rfl
  case h_2 id hresolve => exact .inr ⟨id, mem_ids_of_resolve hresolve, h⟩

/-- A call over a connection that follows the protocol. -/
theorem Follows.withConnection {atdb : Text}
    {call : Nat → State σ → Option (State σ)}
    (hcall : ∀ id ∈ st.core.ids, call id st = some st' →
      Follows pq rules st st')
    (h : withConnection atdb call st = some st') :
    Follows pq rules st st' := by
  rcases withConnection_cases h with rfl | ⟨id, hid, h⟩
  · exact .of_eq rfl rfl
  · exact hcall id hid h

/-- Every call but PREPARE follows the protocol. -/
theorem follows_step {call : Call} (hplain : call.Plain rules)
    (hbegin : ¬rules.touches beginText) (hprepared : PreparedPlain rules.touches st)
    (hcall : ∀ sname query, call ≠ .prepare sname query)
    (h : step pq call st = some st') : Follows pq rules st st' := by
  cases call with
  | connect connstr =>
      obtain rfl := Option.some.inj h
      exact follows_ocesqlConnectMain hbegin _ _ _
  | idConnect atdb connstr =>
      obtain rfl := Option.some.inj h
      unfold ocesqlIdConnect
      split
      · exact .of_eq rfl rfl
      · exact follows_ocesqlConnectMain hbegin _ _ _
  | disconnect atdb =>
      rw [Runtime.step] at h
      refine .withConnection (fun id _ h => ?_) h
      obtain rfl := Option.some.inj h
      exact .ocdbFinish id st
  | exec atdb query =>
      rw [Runtime.step] at h
      refine .withConnection (fun id _ h => ?_) h
      obtain rfl := Option.some.inj h
      exact follows_ocesqlExec hplain hbegin id st
  | execParams atdb query nParams =>
      rw [Runtime.step] at h
      refine .withConnection (fun id _ h => ?_) h
      obtain rfl := Option.some.inj h
      exact follows_ocesqlExecParams hplain hbegin id nParams st
  | execParamsOccurs atdb query nParams =>
      exact .withConnection
        (fun id _ h => follows_ocesqlExecParamsOccurs hplain h) h
  -- PREPARE changes what is prepared and is no step of the core
  | prepare sname query => exact absurd rfl (hcall sname query)
  | execPrepare atdb sname nParams =>
      exact .withConnection
        (fun id _ h => follows_ocesqlExecPrepare hprepared hbegin h) h
  | cursorDeclare atdb cname query =>
      rw [Runtime.step] at h
      exact .withConnection
        (fun id hid h => follows_ocesqlCursorDeclare hid h) h
  | cursorDeclareParams atdb cname query nParams =>
      rw [Runtime.step] at h
      refine .withConnection (fun id hid h => ?_) h
      split at h
      · obtain rfl := Option.some.inj h
        exact .of_eq rfl rfl
      · exact follows_ocesqlCursorDeclare hid h
  | preparedCursorDeclare atdb cname sname =>
      rw [Runtime.step] at h
      refine .withConnection (fun id hid h => ?_) h
      obtain rfl := Option.some.inj h
      exact follows_ocesqlPreparedCursorDeclare hid cname sname
  | cursorOpen cname => exact .opening hplain (open_cases h)
  | cursorOpenParams cname nParams =>
      exact .opening hplain (openParams_cases h)
  | cursorFetchOne cname =>
      exact .fetch hplain (fetchOne_cases h)
  | cursorFetchOccurs cname =>
      exact .fetch hplain (fetchOccurs_cases h)
  | cursorClose cname =>
      obtain rfl := Option.some.inj h
      exact follows_ocesqlCursorClose cname st
  | selectIntoOne atdb query nParams nResParams =>
      refine .withConnection (fun id _ h => ?_) h
      unfold ocesqlExecSelectIntoOne at h
      split at h
      · obtain rfl := Option.some.inj h
        exact .of_eq rfl rfl
      · exact (follows_execSelect hplain hbegin id nParams st).trans
          (.storeSelected .storeFirst h)
  | selectIntoOccurs atdb query nParams nResParams =>
      refine .withConnection (fun id _ h => ?_) h
      unfold ocesqlExecSelectIntoOccurs at h
      split at h
      · obtain rfl := Option.some.inj h
        exact .of_eq rfl rfl
      · exact (follows_execSelect hplain hbegin id nParams st).trans
          (.storeSelected .storeTable h)
  -- what stays in the runtime and the storage of the program
  | startSql | endSql | setResultParams | setHostTable | cobol =>
      obtain rfl := Option.some.inj h
      exact .of_eq rfl rfl
  | setSqlParams sv =>
      change ocesqlSetSqlParams sv st = some st' at h
      unfold ocesqlSetSqlParams at h
      split at h
      · obtain rfl := Option.some.inj h
        exact .of_eq rfl rfl
      · obtain ⟨text, -, rfl⟩ := Option.map_eq_some_iff.mp h
        exact .of_eq rfl rfl

/-- What is prepared is what PREPARE was given, or what was prepared
before. -/
theorem mem_prepares_ocesqlPrepare {sname query : Text} {prepare : Prepare}
    (h : prepare ∈ (ocesqlPrepare sname query st).prepares) :
    prepare ∈ st.prepares
      ∨ prepare.query = (getStrReplaceHostvalue query).1 := by
  change prepare ∈ Keyed.put _ _ _ _ st.prepares at h
  exact (Keyed.mem_put_of h).imp_right fun ⟨a, ha⟩ => by rw [ha]

/-- A call keeps the prepared statements plain and follows the protocol. -/
theorem steps_step {call : Call} (hplain : call.Plain rules)
    (hbegin : ¬rules.touches beginText) (hprepared : PreparedPlain rules.touches st)
    (h : step pq call st = some st') :
    Core.Steps pq rules st.core st'.core ∧ PreparedPlain rules.touches st' := by
  by_cases hcall : ∃ sname query, call = .prepare sname query
  · obtain ⟨sname, query, rfl⟩ := hcall
    obtain rfl := Option.some.inj h
    refine ⟨.refl, ?_⟩
    intro prepare hmem
    rcases mem_prepares_ocesqlPrepare hmem with hmem | hquery
    · exact hprepared prepare hmem
    · rw [hquery]
      exact hplain
  · have hfollows := follows_step hplain hbegin hprepared
      (fun sname query heq => hcall ⟨sname, query, heq⟩) h
    refine ⟨hfollows.steps, ?_⟩
    intro prepare hmem
    rw [hfollows.prepares] at hmem
    exact hprepared prepare hmem

/-- A run of calls is a number of steps of the protocol. -/
theorem steps_run {calls : List Call}
    (hplain : ∀ call ∈ calls, call.Plain rules)
    (hbegin : ¬rules.touches beginText)
    (hprepared : PreparedPlain rules.touches st)
    (h : run pq calls st = some st') :
    Core.Steps pq rules st.core st'.core
      ∧ PreparedPlain rules.touches st' := by
  induction calls generalizing st with
  | nil =>
      obtain rfl := Option.some.inj h
      exact ⟨.refl, hprepared⟩
  | cons call calls ih =>
      obtain ⟨st₁, hstep, hrun⟩ := Option.bind_eq_some_iff.mp h
      obtain ⟨hfirst, hprepared₁⟩ := steps_step
        (hplain call List.mem_cons_self) hbegin hprepared hstep
      obtain ⟨hrest, hprepared'⟩ := ih
        (fun c hc => hplain c (List.mem_cons_of_mem call hc)) hprepared₁ hrun
      exact ⟨hfirst.trans hrest, hprepared'⟩

end CobolExercises.Runtime
