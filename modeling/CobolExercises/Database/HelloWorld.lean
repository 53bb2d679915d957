/-
helloworld: replace the table `messages` by a fresh one with two rows.

# The program

The statements are sent one after the other whatever becomes of them;
only a failed CONNECT stops the run. Every statement but COMMIT is
followed by the SQLCODE check.

# What becomes of the database

The four statements are one script (`Script`), so the table is replaced
exactly when CONNECT, the four statements and COMMIT are all accepted
(`run_committed`): all or nothing. A refused statement is
displayed; a refused COMMIT is not.
-/
import CobolExercises.Database.Script

namespace CobolExercises.Database.HelloWorld

open Lib

-- =========================================================== the program

/-- `MSG`. -/
def msg : PicX 28 := PicX.ofLine 28 "Hello cobol from postges".toList

/-- `2nd_msg`. -/
def secondMsg : PicX 28 := PicX.ofLine 28 "Something something".toList

def columns : List Column :=
  [⟨"message_id", true⟩, ⟨"message_content", false⟩]

def dropMessages : Query := .dropTableIfExists "messages"

def createMessages : Query := .createTable "messages" columns

/-- `INSERT INTO messages (message_content) VALUES (:item)`. -/
def insertMessage (item : PicX 28) : Query :=
  .insert "messages" [("message_content", hostText item)]

section Program

variable (ses : Session)

/-- ERROR-RTN. -/
def errorRtn : World → World :=
  Database.errorRtn ses (fun c => [.lit "SQLCODE: ", .num c, .lit " "])
    "Connection falied"

/-- From "Connected to database" to "Inserted data". -/
def statements (w : World) : World :=
  let w := w.display [.lit "Connected to database succesfully"]
  let w := checkSqlcode (errorRtn ses) (ocesqlExec ses dropMessages w)
  let w := ocesqlExec ses createMessages w
  let w := w.display [.lit "Created table"]
  let w := checkSqlcode (errorRtn ses) w
  let w := checkSqlcode (errorRtn ses)
    (ocesqlExec ses (insertMessage msg) w)
  let w := checkSqlcode (errorRtn ses)
    (ocesqlExec ses (insertMessage secondMsg) w)
  w.display [.lit "Inserted data"]

/-- The line of stars the program starts and ends with. -/
def stars : Display :=
  [.lit "***************************************************"]

/-- `main-routine`, to STOP RUN. -/
def mainRoutine (w : World) : World :=
  let w := w.display stars
  let w := w.display [.lit "Program Started"]
  let w := ocesqlConnect ses w
  if w.sqlca.sqlcode ≠ 0 then errorRtn ses w
  else
    let w := statements ses w
    let w := ocesqlExec ses .commit w
    let w := ocesqlDisconnect w
    let w := w.display [.lit "Program Finished"]
    w.display stars

/-- A run on the database `db`. -/
def run (db : Tables) : World := mainRoutine ses (World.initial db)

end Program

-- ===================================================== what is left behind

/-- The row of a message. -/
def row (id : Nat) (item : PicX 28) : Row :=
  [("message_id", .serial id), ("message_content", .text item.chars)]

/-- A fresh table with the two rows. -/
def messagesTable : Table :=
  ⟨columns, [row 1 msg, row 2 secondMsg], 3⟩

/-- `db` with the table `messages` replaced by that one. -/
def replaced (db : Tables) : Tables :=
  Function.update db "messages" (some messagesTable)

/-- The messages in the table `messages` are exactly the two. -/
def HoldsMessages (db : Tables) : Prop :=
  ∃ t, db "messages" = some t
    ∧ t.rows.map (fun r => r.lookup "message_content")
      = [some (.text msg.chars), some (.text secondMsg.chars)]

/-- A run that finishes without displaying the error leaves the two
messages committed. -/
def NoSilentFailure (ses : Session) (db : Tables) : Prop :=
  [.lit "Program Finished"] ∈ (run ses db).console →
    ¬ Errored (run ses db) → HoldsMessages (run ses db).server.committed

-- ============================================================== the script

/-- The statements of the program. -/
def script : List Query :=
  [dropMessages, createMessages, insertMessage msg, insertMessage secondMsg]

variable {ses : Session} {db : Tables} {w : World}

theorem effect_insertMessage {t : Table} {item : PicX 28}
    (hcolumns : t.columns = columns) (htext : hostText item = item.chars) :
    (insertMessage item).effect (Function.update db "messages" (some t))
      = some (Function.update db "messages" (some { t with
        rows := t.rows ++ [row t.nextSerial item]
        nextSerial := t.nextSerial + 1 })) := by
  refine effect_insert ?_
  simp only [Table.insert, hcolumns, htext]
  rfl

/-- The check of this program. -/
theorem check_sound {qs : List Query} {q : Query} {p : Tables}
    (h : Told ses db qs q p w) :
    Sound ses db (qs ++ [q]) p (checkSqlcode (errorRtn ses) w) :=
  h.check

/-- The statements are the script, each with its check, whose errors are
shown. -/
theorem statements_sound (hw : Script ses db [] db w)
    (hquiet : ¬ Errored w) :
    Sound ses db script (replaced db) (statements ses w) := by
  have hstart : Sound ses db [] db w :=
    ⟨⟨fun h => absurd h hquiet, nofun⟩, fun _ => hw⟩
  have hconnected := hstart.display
    [.lit "Connected to database succesfully"] (by decide)
  have hdrop := check_sound
    (hconnected.exec (q := dropMessages) rfl rfl)
  have hcreate := check_sound ((hdrop.exec (q := createMessages) rfl
    (effect_createTable _ _ columns)).display
      [.lit "Created table"] (by decide))
  have hfirst := check_sound (hcreate.exec (q := insertMessage msg) rfl
    (effect_insertMessage rfl (by decide)))
  have hsecond := check_sound
    (hfirst.exec (q := insertMessage secondMsg) rfl
      (effect_insertMessage rfl (by decide)))
  exact hsecond.display _ (by decide)

-- ============================================================ the whole run

/-- The world CONNECT finds. -/
def started (db : Tables) : World :=
  ((World.initial db).display stars).display [.lit "Program Started"]

/-- A run whose CONNECT fails ends in the error paragraph. -/
theorem run_failed (hconnect : ses.connects = false) :
    run ses db = errorRtn ses (ocesqlConnect ses (started db)) := by
  have hcode := (ocesqlConnect_failed (w := started db) hconnect rfl rfl).1
  exact if_pos hcode

/-- Any other run goes through the statements to COMMIT. -/
theorem run_connected (hconnect : ses.connects = true) :
    run ses db = ((ocesqlDisconnect (ocesqlExec ses .commit
      (statements ses (ocesqlConnect ses (started db))))).display
        [.lit "Program Finished"]).display stars := by
  have hcode := (ocesqlConnect_script (w := started db) hconnect rfl rfl).2
  exact if_neg (not_not.mpr hcode)

/-- The world COMMIT finds. -/
def uncommitted (ses : Session) (db : Tables) : World :=
  statements ses (ocesqlConnect ses (started db))

theorem uncommitted_sound (db : Tables) (hconnect : ses.connects = true) :
    Sound ses db script (replaced db) (uncommitted ses db) := by
  have hscript :=
    (ocesqlConnect_script (w := started db) hconnect rfl rfl).1
  refine statements_sound hscript ?_
  rw [Errored, ocesqlConnect_console]
  simp [started, stars, World.display, World.displayAll, World.initial]

/-- The error is displayed exactly if one of the five is refused. -/
theorem errored_run_iff :
    Errored (run ses db)
      ↔ ¬(ses.connects = true ∧ ses.accepts 4 = true) := by
  cases hconnect : ses.connects with
  | false =>
      rw [run_failed hconnect]
      refine ⟨fun _ h => ?_, fun _ => errored_errorRtn _ _ _⟩
      cases h.1
  | true =>
      rw [run_connected hconnect, errored_display (by decide),
        errored_display (by decide)]
      show [_] ∈ (ocesqlExec ses .commit (uncommitted ses db)).console ↔ _
      rw [ocesqlExec_console]
      refine (uncommitted_sound db hconnect).errored.trans ?_
      simp [script]

/-- All or nothing: the table is replaced exactly if the four statements
and COMMIT are accepted. -/
theorem run_committed (hconnect : ses.connects = true)
    (hunbroken : ses.Unbroken 4) :
    (run ses db).server.committed
      = if ses.accepts 4 && !ses.refuses 5 then replaced db else db := by
  have hscript := (uncommitted_sound db hconnect).script hunbroken
  have hcommit := (ocesqlExec_commit ses hscript.inTxn).1
  rw [hscript.length_log] at hcommit
  rw [run_connected hconnect]
  exact hcommit

/-- The statements that reach the server: the script and COMMIT. -/
theorem run_log (db : Tables) (hconnect : ses.connects = true)
    (hunbroken : ses.Unbroken 4) :
    ∃ post, (run ses db).log = connectEvent :: events ses script
        ++ ⟨.commit, !ses.refuses 5, !ses.accepts 4⟩ :: post
      ∧ ∀ e ∈ post, e.query = .begin ∧ e.inAborted = false := by
  have hscript := (uncommitted_sound db hconnect).script hunbroken
  obtain ⟨-, -, post, hlog, hpost⟩ :=
    ocesqlExec_commit ses hscript.inTxn
  refine ⟨post, ?_, hpost⟩
  rw [hscript.length_log, hscript.log] at hlog
  rw [run_connected hconnect]
  exact hlog

-- ========================================================= all or nothing

/-- Whatever PostgreSQL rejects and with which errors, the run leaves the
committed database as it was, or with the table `messages` replaced by a
fresh one that holds exactly the two rows. -/
theorem committed_eq_or_replaced (ses : PgSession) (db : Tables) :
    (run ses.toSession db).server.committed = db
      ∨ (run ses.toSession db).server.committed = replaced db := by
  cases hconnect : ses.toSession.connects with
  | false =>
      left
      have hserver := (ocesqlConnect_failed (w := started db) hconnect
        rfl rfl).2
      rw [run_failed hconnect, errorRtn, errorRtn_committed, hserver]
  | true =>
      rw [run_committed hconnect (.inr ses.noRestart)]
      split
      · exact .inr rfl
      · exact .inl rfl

-- ======================================================= silent failures

theorem holdsMessages_replaced (db : Tables) :
    HoldsMessages (replaced db) :=
  ⟨messagesTable, Function.update_self .., rfl⟩

/-- A run that gets past CONNECT finishes. -/
theorem finished_run (hconnect : ses.connects = true) :
    [.lit "Program Finished"] ∈ (run ses db).console := by
  rw [run_connected hconnect]
  simp [World.display, World.displayAll]

/-- What counts is COMMIT when everything before it went well. -/
theorem noSilentFailure_iff (ses : Session) (db : Tables) :
    NoSilentFailure ses db
      ↔ ¬(ses.connects = true ∧ ses.accepts 4 = true)
        ∨ ses.refuses 5 = false ∨ HoldsMessages db := by
  unfold NoSilentFailure
  rw [errored_run_iff, not_not]
  by_cases hfour : ses.connects = true ∧ ses.accepts 4 = true
  · obtain ⟨hconnect, haccept⟩ := hfour
    rw [run_committed hconnect (.inl haccept), haccept]
    cases hrefuse : ses.refuses 5 with
    | false => simp [holdsMessages_replaced]
    | true => simp [hconnect, finished_run]
  · simp [hfour]

/-- A server that refuses COMMIT, for want of disk space. -/
def commitRefused : Session where
  connectError := none
  refuses i := i == 5
  errors _ := ⟨⟨-400, "53100", []⟩, by decide⟩

/-- On an empty database the run finishes, displays no error, and leaves
the database empty. -/
theorem not_noSilentFailure_commitRefused :
    ¬ NoSilentFailure commitRefused fun _ => none := by
  intro h
  have hquiet : ¬ Errored (run commitRefused fun _ => none) := by
    rw [errored_run_iff]
    decide
  obtain ⟨t, ht, -⟩ := h (finished_run rfl) hquiet
  rw [run_committed rfl (.inl rfl)] at ht
  cases ht

end CobolExercises.Database.HelloWorld
