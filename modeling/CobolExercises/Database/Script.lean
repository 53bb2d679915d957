/-
A run of statements in one transaction, and what becomes of it.

# The script

From CONNECT on a program sends its statements one after the other, and
as long as it sends no ROLLBACK they share the transaction that CONNECT
began. Then the run is known from its session: statement `n` is accepted
exactly when none of the statements up to it is refused (`accepts`),
which fixes the log (`events`) and the transaction (`Script`). The error
paragraph keeps the script: none of the codes the runtime reports makes
it send a ROLLBACK (`Session.NoRestart`).

# Restarting

The error paragraph is there to send a ROLLBACK behind every rejected
statement (`RollsBack`) and so to keep the later ones out of the aborted
transaction (`NoneInAborted`). A script with a COMMIT behind it has both
exactly when nothing in it has failed (`restarts_iff`).
-/
import CobolExercises.Database.Esql

namespace CobolExercises.Database

open Lib

variable {ses : Session} {w : World} {d p p' : Tables}
  {qs : List Query} {q : Query}

-- ============================================================= acceptance

/-- Of the statements behind the BEGIN of CONNECT, the first `n` are
accepted: none of them is refused. -/
def Session.accepts (ses : Session) (n : Nat) : Bool :=
  (List.range' 1 n).all fun i => !ses.refuses i

theorem Session.accepts_succ (ses : Session) (n : Nat) :
    ses.accepts (n + 1) = (ses.accepts n && !ses.refuses (n + 1)) := by
  rw [accepts, List.range'_1_concat, List.all_append, Nat.add_comm 1 n]
  simp [accepts]

/-- A statement is accepted only if the earlier ones are. -/
theorem Session.accepts_of_le {n m : Nat} (hnm : n ≤ m)
    (h : ses.accepts m = true) : ses.accepts n = true := by
  rw [accepts, List.all_eq_true] at h ⊢
  intro i hi
  refine h i ?_
  rw [List.mem_range'_1] at hi ⊢
  omega

/-- CONNECT succeeds. -/
def Session.connects (ses : Session) : Bool :=
  ses.connectError.isNone && !ses.refuses 0

/-- No error of the session makes the error paragraph send a ROLLBACK. -/
def Session.NoRestart (ses : Session) : Prop :=
  ∀ i, (ses.errors i).1.sqlcode ≠ -30

/-- The errors of PostgreSQL do not. -/
theorem PgSession.noRestart (ses : PgSession) :
    ses.toSession.NoRestart := by
  intro i h
  have hle : (ses.toSession.errors i).1.sqlcode ≤ -200 :=
    ocdbPGSetResultStatus_le (ses.errors i)
  omega

-- ============================================================= the script

/-- What the statements leave in the log. -/
def events (ses : Session) (qs : List Query) : List Event :=
  qs.zipIdx.map fun (q, j) => ⟨q, ses.accepts (j + 1), !ses.accepts j⟩

theorem length_events (ses : Session) (qs : List Query) :
    (events ses qs).length = qs.length := by
  simp [events]

theorem events_concat (ses : Session) (qs : List Query) (q : Query) :
    events ses (qs ++ [q]) = events ses qs
      ++ [⟨q, ses.accepts (qs.length + 1), !ses.accepts qs.length⟩] := by
  simp [events, List.zipIdx_append]

/-- The BEGIN of CONNECT in the log. -/
def connectEvent : Event := ⟨.begin, true, false⟩

/-- Since CONNECT the statements `qs` have been sent, in the transaction it
began from `d`; they work out `p`. -/
structure Script (ses : Session) (d : Tables) (qs : List Query)
    (p : Tables) (w : World) : Prop where
  inTxn : InTxn d p (ses.accepts qs.length) w
  log : w.log = connectEvent :: events ses qs

theorem Script.length_log (h : Script ses d qs p w) :
    w.log.length = qs.length + 1 := by
  rw [h.log, List.length_cons, length_events]

theorem Script.displayAll (h : Script ses d qs p w)
    (shown : List Display) : Script ses d qs p (w.displayAll shown) :=
  ⟨h.inTxn.displayAll shown, h.log⟩

theorem Script.display (h : Script ses d qs p w) (items : Display) :
    Script ses d qs p (w.display items) :=
  h.displayAll [items]

/-- One more statement. -/
theorem Script.exec (h : Script ses d qs p w) (hq : q.isStatement = true)
    (hp : q.effect p = some p') :
    Script ses d (qs ++ [q]) p' (ocesqlExec ses q w) := by
  have haccept : (ses.accepts qs.length && !ses.refuses w.log.length)
      = ses.accepts (qs.length + 1) := by
    rw [h.length_log, ses.accepts_succ]
  rw [ocesqlExec_statement h.inTxn hq hp, haccept]
  refine ⟨⟨h.inTxn.connected, ?_⟩, ?_⟩
  · rw [List.length_append, List.length_singleton]
  · show w.log ++ [_] = _
    rw [h.log, events_concat, List.cons_append]

/-- Afterwards SQLCODE tells whether all of them have been accepted. -/
theorem Script.sqlcode_exec (h : Script ses d qs p w)
    (hq : q.isStatement = true) (hp : q.effect p = some p') :
    (ocesqlExec ses q w).sqlca.sqlcode = 0
      ↔ ses.accepts (qs.length + 1) = true := by
  rw [sqlcode_ocesqlExec h.inTxn hq hp, h.length_log, ses.accepts_succ]

/-- A statement comes back with zero or with an error of the session. -/
theorem Script.exec_ne_restart (hses : ses.NoRestart)
    (h : Script ses d qs p w) (hq : q.isStatement = true)
    (hp : q.effect p = some p') :
    (ocesqlExec ses q w).sqlca.sqlcode ≠ -30 := by
  rw [ocesqlExec_statement h.inTxn hq hp]
  dsimp only
  split
  case isTrue => decide
  case isFalse => exact hses w.log.length

/-- The error paragraph does not interrupt the script. -/
theorem Script.errorRtn {code : Int → Display} {connection : String}
    (h : Script ses d qs p w) (hcode : w.sqlca.sqlcode ≠ -30) :
    Script ses d qs p (errorRtn ses code connection w) := by
  rw [errorRtn_eq hcode]
  exact h.displayAll _

-- ============================================================ both ends

/-- CONNECT starts a script, with SQLCODE zero. -/
theorem ocesqlConnect_script (hconnect : ses.connects = true)
    (hserver : w.server = ⟨d, .none⟩) (hlog : w.log = []) :
    Script ses d [] d (ocesqlConnect ses w)
      ∧ (ocesqlConnect ses w).sqlca.sqlcode = 0 := by
  rw [Session.connects, Bool.and_eq_true, Option.isNone_iff_eq_none,
    Bool.not_eq_true'] at hconnect
  obtain ⟨herror, hrefuse⟩ := hconnect
  have hconn : ocesqlConnect ses w = { w with
      connected := true
      server := ⟨d, .working true d⟩
      log := [connectEvent]
      sqlca := Sqlca.success } := by
    unfold ocesqlConnect
    rw [herror]
    simp only [send, hserver, hlog, List.length_nil, hrefuse]
    rfl
  rw [hconn]
  exact ⟨⟨⟨rfl, rfl⟩, rfl⟩, rfl⟩

/-- A CONNECT that fails says so, commits nothing, and sends at most its
BEGIN. -/
theorem ocesqlConnect_failed (hconnect : ses.connects = false)
    (hserver : w.server = ⟨d, .none⟩) (hlog : w.log = []) :
    (ocesqlConnect ses w).sqlca.sqlcode ≠ 0
      ∧ (ocesqlConnect ses w).server = ⟨d, .none⟩ := by
  unfold ocesqlConnect
  split
  case h_1 e _ => exact ⟨e.2, hserver⟩
  case h_2 herror =>
      have hrefuse : ses.refuses 0 = true := by
        simpa [Session.connects, herror] using hconnect
      simp only [send, hserver, hlog, List.length_nil, hrefuse]
      exact ⟨(ses.errors 0).2, rfl⟩

theorem send_committed (q : Query) (hq : q = .begin ∨ q = .rollback)
    (w : World) :
    (send ses q w).server.committed = w.server.committed := by
  cases hq with
  | inl hbegin =>
      subst hbegin
      apply Transaction.Server.handle_begin_committed
  | inr hrollback =>
      subst hrollback
      apply Transaction.Server.handle_rollback_committed

theorem ocesqlExec_rollback_committed (w : World) :
    (ocesqlExec ses .rollback w).server.committed
      = w.server.committed := by
  unfold ocesqlExec
  dsimp only
  split
  · split
    · exact send_committed _ (.inr rfl) w
    · rw [if_pos (.inr rfl), send_committed _ (.inl rfl),
        send_committed _ (.inr rfl)]
  · rfl

/-- No call displays anything. -/
theorem ocesqlExec_console (q : Query) (w : World) :
    (ocesqlExec ses q w).console = w.console := by
  unfold ocesqlExec
  dsimp only
  split_ifs <;> rfl

theorem ocesqlConnect_console (ses : Session) (w : World) :
    (ocesqlConnect ses w).console = w.console := by
  unfold ocesqlConnect
  split <;> rfl

/-- The error paragraph commits nothing, whatever the code. -/
theorem errorRtn_committed (code : Int → Display) (connection : String)
    (w : World) :
    (errorRtn ses code connection w).server.committed
      = w.server.committed := by
  unfold errorRtn
  dsimp only
  split
  · exact ocesqlExec_rollback_committed _
  · rfl

/-- Without a connection the error paragraph sends nothing either. -/
theorem errorRtn_log {code : Int → Display} {connection : String}
    (h : w.connected = false) :
    (errorRtn ses code connection w).log = w.log := by
  unfold errorRtn
  dsimp only
  split
  · have hconnected : (w.displayAll
        (errorTexts code connection w.sqlca)).connected = false := h
    rw [ocesqlExec_of_not_connected hconnected]
    rfl
  · rfl

/-- After a failed CONNECT the log holds at most a rejected BEGIN. -/
theorem failed_log {code : Int → Display} {connection : String}
    (hses : ses.NoRestart) (hconnect : ses.connects = false)
    (hserver : w.server = ⟨d, .none⟩) (hlog : w.log = [])
    (hconnected : w.connected = false) :
    (errorRtn ses code connection (ocesqlConnect ses w)).log.length ≤ 1
      ∧ ∀ e ∈ (errorRtn ses code connection (ocesqlConnect ses w)).log,
        e.inAborted = false := by
  unfold ocesqlConnect
  split
  case h_1 e _ =>
      rw [errorRtn_log (w := { w with sqlca := e.1 }) hconnected]
      simp [hlog]
  case h_2 herror =>
      have hrefuse : ses.refuses 0 = true := by
        simpa [Session.connects, herror] using hconnect
      have hsend : send ses .begin { w with connected := true }
          = { w with
            connected := true
            log := [⟨.begin, false, false⟩]
            sqlca := (ses.errors 0).1 } := by
        simp only [send, hserver, hlog, List.length_nil, hrefuse]
        rfl
      rw [hsend, errorRtn_eq (hses 0)]
      exact ⟨le_rfl, List.forall_mem_singleton.mpr rfl⟩

-- =============================================================== reporting

/-- The run has displayed the error. -/
def Errored (w : World) : Prop :=
  [Item.lit "*** SQL ERROR ***"] ∈ w.console

/-- Whatever the code, the error paragraph displays its texts. -/
theorem errorRtn_console (code : Int → Display) (connection : String)
    (w : World) :
    (errorRtn ses code connection w).console
      = w.console ++ errorTexts code connection w.sqlca := by
  unfold errorRtn
  dsimp only
  split
  · exact ocesqlExec_console _ _
  · rfl

/-- The error paragraph displays the error first. -/
theorem errored_errorRtn (code : Int → Display) (connection : String)
    (w : World) : Errored (errorRtn ses code connection w) := by
  rw [Errored, errorRtn_console]
  simp [errorTexts]

/-- No ROLLBACK has broken the script up after `n` checked statements:
there was no error, or none that asks for one. -/
def Session.Unbroken (ses : Session) (n : Nat) : Prop :=
  ses.accepts n = true ∨ ses.NoRestart

theorem Session.unbroken_of_succ {n : Nat}
    (h : ses.Unbroken (n + 1)) : ses.Unbroken n :=
  h.imp_left (ses.accepts_of_le (Nat.le_succ n))

/-- After checked statements: the error has been displayed exactly if one of
them was refused, and the script stands if it is unbroken. -/
structure Sound (ses : Session) (d : Tables) (qs : List Query)
    (p : Tables) (w : World) : Prop where
  errored : Errored w ↔ ses.accepts qs.length = false
  script : ses.Unbroken qs.length → Script ses d qs p w

/-- Between a statement and its check: SQLCODE tells what the console does
not yet. -/
structure Told (ses : Session) (d : Tables) (qs : List Query) (q : Query)
    (p : Tables) (w : World) : Prop where
  errored : Errored w ↔ ses.accepts qs.length = false
  script : ses.Unbroken qs.length → Script ses d (qs ++ [q]) p w
  sqlcode : ses.Unbroken qs.length →
    (w.sqlca.sqlcode = 0 ↔ ses.accepts (qs.length + 1) = true)
  restart : ses.NoRestart → w.sqlca.sqlcode ≠ -30

theorem errored_display {items : Display}
    (hitems : items ≠ [.lit "*** SQL ERROR ***"]) :
    Errored (w.display items) ↔ Errored w := by
  simp [Errored, World.display, World.displayAll, hitems.symm]

theorem Sound.display (h : Sound ses d qs p w) (items : Display)
    (hitems : items ≠ [.lit "*** SQL ERROR ***"]) :
    Sound ses d qs p (w.display items) :=
  ⟨(errored_display hitems).trans h.errored,
    fun hu => (h.script hu).display items⟩

theorem Told.display (h : Told ses d qs q p w) (items : Display)
    (hitems : items ≠ [.lit "*** SQL ERROR ***"]) :
    Told ses d qs q p (w.display items) :=
  ⟨(errored_display hitems).trans h.errored,
    fun hu => (h.script hu).display items, h.sqlcode, h.restart⟩

/-- A statement. -/
theorem Sound.exec (h : Sound ses d qs p w) (hq : q.isStatement = true)
    (hp : q.effect p = some p') :
    Told ses d qs q p' (ocesqlExec ses q w) := by
  refine ⟨?_, fun hu => (h.script hu).exec hq hp,
    fun hu => (h.script hu).sqlcode_exec hq hp,
    fun hses => (h.script (.inr hses)).exec_ne_restart hses hq hp⟩
  rw [Errored, ocesqlExec_console]
  exact h.errored

/-- Its check. -/
theorem Told.check {code : Int → Display} {connection : String}
    (h : Told ses d qs q p w) :
    Sound ses d (qs ++ [q]) p
      (checkSqlcode (errorRtn ses code connection) w) := by
  have hlen : (qs ++ [q]).length = qs.length + 1 := by simp
  unfold checkSqlcode
  split
  case isTrue hcode =>
      have hreject : ses.accepts (qs.length + 1) = false := by
        rw [← Bool.not_eq_true]
        intro ha
        have hn := ses.accepts_of_le (Nat.le_succ qs.length) ha
        exact hcode ((h.sqlcode (.inl hn)).mpr ha)
      refine ⟨⟨fun _ => hlen ▸ hreject,
        fun _ => errored_errorRtn code connection w⟩, fun hu => ?_⟩
      rw [hlen] at hu
      cases hu with
      | inl ha => rw [hreject] at ha; cases ha
      | inr hses => exact (h.script (.inr hses)).errorRtn (h.restart hses)
  case isFalse hcode =>
      have hn : ses.Unbroken qs.length →
          ses.accepts (qs.length + 1) = true := fun hu =>
        (h.sqlcode hu).mp (not_not.mp hcode)
      refine ⟨?_, fun hu => ?_⟩
      · rw [h.errored, hlen]
        cases ha : ses.accepts qs.length with
        | true => simp [hn (.inl ha)]
        | false => simp [ses.accepts_succ, ha]
      · rw [hlen] at hu
        exact h.script (ses.unbroken_of_succ hu)

-- ============================================================== restarting

/-- Behind every statement that is rejected, a ROLLBACK is the next thing
to reach the server. -/
def RollsBack (log : List Event) : Prop :=
  ∀ pre e e' post, log = pre ++ e :: e' :: post →
    e.query.isStatement = true → e.accepted = false → e'.query = .rollback

/-- Nothing but a ROLLBACK is sent inside an aborted transaction. -/
def NoneInAborted (log : List Event) : Prop :=
  ∀ e ∈ log, e.inAborted = true → e.query = .rollback

/-- Behind a single statement nothing is missing. -/
theorem rollsBack_of_length_le {log : List Event} (h : log.length ≤ 1) :
    RollsBack log := by
  intro pre e e' post hsplit
  rw [hsplit, List.length_append, List.length_cons, List.length_cons] at h
  omega

/-- Where nothing has failed up to the COMMIT, nothing is rejected but
COMMIT and BEGIN, and nothing is sent in an aborted transaction. -/
theorem forall_mem_log_of_ok (accepted : Bool) {sent post : List Event}
    (hok : ∀ e ∈ sent, e.accepted = true ∧ e.inAborted = false)
    (hpost : ∀ e ∈ post, e.query = .begin ∧ e.inAborted = false) :
    ∀ e ∈ sent ++ ⟨.commit, accepted, false⟩ :: post,
      (e.query.isStatement = true → e.accepted = true)
        ∧ e.inAborted = false := by
  rw [List.forall_mem_append, List.forall_mem_cons]
  refine ⟨fun e he => ?_, ⟨nofun, rfl⟩, fun e he => ?_⟩
  · exact ⟨fun _ => (hok e he).1, (hok e he).2⟩
  · obtain ⟨hbegin, houtside⟩ := hpost e he
    refine ⟨fun hstmt => ?_, houtside⟩
    rw [hbegin] at hstmt
    cases hstmt

/-- With a COMMIT behind it, a log in which failure lasts restarts exactly
when nothing has failed. -/
theorem restarts_iff {ok accepted : Bool} (sent : List Event)
    {post : List Event}
    (hok : ok = true → ∀ e ∈ sent, e.accepted = true ∧ e.inAborted = false)
    (hfail : ok = false → ∃ pre e, sent = pre ++ [e]
      ∧ e.query.isStatement = true ∧ e.accepted = false)
    (hpost : ∀ e ∈ post, e.query = .begin ∧ e.inAborted = false) :
    (RollsBack (sent ++ ⟨.commit, accepted, !ok⟩ :: post) ↔ ok = true)
      ∧ (NoneInAborted (sent ++ ⟨.commit, accepted, !ok⟩ :: post)
        ↔ ok = true) := by
  cases ok with
  | true =>
      have hall := forall_mem_log_of_ok accepted (hok rfl) hpost
      refine ⟨iff_of_true ?_ rfl, iff_of_true ?_ rfl⟩
      · intro pre e e' rest hsplit hstmt hrej
        have hmem : e ∈ pre ++ e :: e' :: rest := by simp
        rw [← hsplit] at hmem
        rw [(hall e hmem).1 hstmt] at hrej
        cases hrej
      · intro e hmem hin
        rw [(hall e hmem).2] at hin
        cases hin
  | false =>
      -- the COMMIT itself is what comes next
      refine ⟨iff_of_false ?_ Bool.false_ne_true,
        iff_of_false ?_ Bool.false_ne_true⟩
      · intro h
        obtain ⟨pre, e, hsent, hstmt, hrej⟩ := hfail rfl
        subst hsent
        have := h pre e _ post (List.append_assoc pre [e] _) hstmt hrej
        cases this
      · intro h
        have := h ⟨.commit, accepted, true⟩ (by simp) rfl
        cases this

/-- In a script without a failure every statement is accepted, outside an
aborted transaction. -/
theorem events_of_accepts (qs : List Query) {e : Event}
    (h : ses.accepts qs.length = true)
    (he : e ∈ connectEvent :: events ses qs) :
    e.accepted = true ∧ e.inAborted = false := by
  rcases List.mem_cons.mp he with rfl | he
  · exact ⟨rfl, rfl⟩
  · obtain ⟨⟨q, j⟩, hj, rfl⟩ := List.mem_map.mp he
    have hlt : j < qs.length := by
      have := List.mem_zipIdx hj
      omega
    refine ⟨ses.accepts_of_le (n := j + 1) hlt h, ?_⟩
    show (!ses.accepts j) = false
    rw [ses.accepts_of_le hlt.le h]
    rfl

/-- In a script with a failure the last statement is rejected: failure
lasts. -/
theorem events_of_not_accepts (qs : List Query) (n : Nat)
    (hn : n ≤ qs.length + 1)
    (hq : q.isStatement = true) (h : ses.accepts (qs.length + 1) = false) :
    ∃ pre e, (connectEvent :: events ses (qs ++ [q])).drop n = pre ++ [e]
      ∧ e.query.isStatement = true ∧ e.accepted = false := by
  refine ⟨(connectEvent :: events ses qs).drop n,
    ⟨q, ses.accepts (qs.length + 1), !ses.accepts qs.length⟩, ?_, hq, h⟩
  rw [events_concat, ← List.cons_append, List.drop_append_of_le_length]
  rwa [List.length_cons, length_events]

end CobolExercises.Database
