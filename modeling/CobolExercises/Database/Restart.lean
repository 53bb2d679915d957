/-
Whether the two programs ever restart a transaction.

The error paragraph sends its ROLLBACK for SQLCODE -30 only, and the
table of the runtime has no -30 (`PgSession.noRestart`). So behind a
rejected statement comes the next one of the program, at the latest
COMMIT, inside the aborted transaction; the paragraph does its duty
exactly in the runs in which it has none.
-/
import CobolExercises.Database.HelloWorld
import CobolExercises.Database.InsertMany

namespace CobolExercises.Database

open Lib ReadJson

variable {ses : Session}

-- ============================================================= helloworld

/-- helloworld restarts when there is nothing to restart from. -/
theorem restarts_helloWorld_iff (hses : ses.NoRestart) (db : Tables) :
    (RollsBack (HelloWorld.run ses db).log
        ↔ ses.connects = false ∨ ses.accepts 4 = true)
      ∧ (NoneInAborted (HelloWorld.run ses db).log
        ↔ ses.connects = false ∨ ses.accepts 4 = true) := by
  cases hconnect : ses.connects with
  | false =>
      have hlog : (HelloWorld.run ses db).log.length ≤ 1
          ∧ ∀ e ∈ (HelloWorld.run ses db).log, e.inAborted = false := by
        rw [HelloWorld.run_failed hconnect]
        exact failed_log (w := HelloWorld.started db) hses hconnect rfl rfl
          rfl
      refine ⟨iff_of_true (rollsBack_of_length_le hlog.1) (.inl rfl),
        iff_of_true (fun e he hin => ?_) (.inl rfl)⟩
      rw [hlog.2 e he] at hin
      cases hin
  | true =>
      obtain ⟨post, hlog, hpost⟩ :=
        HelloWorld.run_log db hconnect (.inr hses)
      have hor : (true = false ∨ ses.accepts 4 = true)
          ↔ ses.accepts 4 = true := by simp
      rw [hlog, hor]
      apply restarts_iff (connectEvent :: events ses HelloWorld.script)
      · intro hok e he
        exact events_of_accepts HelloWorld.script hok he
      · exact events_of_not_accepts
          [HelloWorld.dropMessages, HelloWorld.createMessages,
            HelloWorld.insertMessage HelloWorld.msg] 0 (Nat.zero_le _) rfl
      · exact hpost

-- ============================================================= insertmany

/-- The log from the first INSERT on: if an INSERT has been rejected, so
has the last one. -/
theorem insertMany_rejected {orders : InsertMany.Orders} {i : Nat}
    (hstart : ses.accepts 2 = true) (hreject : ses.accepts (i + 2) = false) :
    ∃ pre e, (connectEvent
        :: events ses (InsertMany.script orders i)).drop 3 = pre ++ [e]
      ∧ e.query.isStatement = true ∧ e.accepted = false := by
  cases i with
  | zero => rw [hstart] at hreject; cases hreject
  | succ i =>
      have hlen := InsertMany.length_script orders i
      rw [InsertMany.script_succ]
      apply events_of_not_accepts
      · omega
      · rfl
      · rwa [hlen]

/-- From the first INSERT on, so does insertmany. -/
theorem restarts_insertMany_iff (hses : ses.NoRestart) (mode : Overlong)
    (file : List Line) (orders : InsertMany.Orders) (db : Tables) :
    ∃ w, Settles (InsertMany.run ses mode file orders db) (.ok w)
      ∧ (RollsBack (w.log.drop 3)
        ↔ ¬ InsertMany.Reached ses mode file
          ∨ ses.accepts (orders.count.val + 2) = true)
      ∧ (NoneInAborted (w.log.drop 3)
        ↔ ¬ InsertMany.Reached ses mode file
          ∨ ses.accepts (orders.count.val + 2) = true) := by
  by_cases hreach : InsertMany.Reached ses mode file
  · obtain ⟨w, hw, h⟩ := InsertMany.run_finished orders db hses hreach
    obtain ⟨post, hlog, hpost⟩ := h.log
    have hlen := InsertMany.length_script orders orders.count.val
    have hthree : 3 ≤ (connectEvent
        :: events ses (InsertMany.script orders orders.count.val)).length := by
      rw [List.length_cons, length_events, hlen]
      omega
    refine ⟨w, hw, ?_⟩
    rw [hlog, List.drop_append_of_le_length hthree]
    simp only [hreach, not_true_eq_false, false_or]
    apply restarts_iff
    · intro hok e he
      apply events_of_accepts _ _ (List.mem_of_mem_drop he)
      rwa [hlen]
    · exact insertMany_rejected hreach.2.1
    · exact hpost
  · obtain ⟨w, hw, h⟩ := InsertMany.run_stopped orders db hses hreach
    refine ⟨w, hw, ?_⟩
    rw [h.log]
    exact ⟨iff_of_true (rollsBack_of_length_le (Nat.zero_le _))
      (.inl hreach), iff_of_true nofun (.inl hreach)⟩

-- ======================================================= when it restarts

/-- Whatever the errors, both programs restart after a rejected statement
exactly in the runs without one, and in no other run are later statements
kept out of the aborted transaction. -/
theorem restarts_iff_nothing_rejected (ses : PgSession) (mode : Overlong)
    (file : List Line) (orders : InsertMany.Orders) (db : Tables) :
    ((RollsBack (HelloWorld.run ses.toSession db).log
        ↔ ses.toSession.connects = false ∨ ses.toSession.accepts 4 = true)
      ∧ (NoneInAborted (HelloWorld.run ses.toSession db).log
        ↔ ses.toSession.connects = false
          ∨ ses.toSession.accepts 4 = true))
    ∧ ∃ w, Settles (InsertMany.run ses.toSession mode file orders db) (.ok w)
      ∧ (RollsBack (w.log.drop 3)
        ↔ ¬ InsertMany.Reached ses.toSession mode file
          ∨ ses.toSession.accepts (orders.count.val + 2) = true)
      ∧ (NoneInAborted (w.log.drop 3)
        ↔ ¬ InsertMany.Reached ses.toSession mode file
          ∨ ses.toSession.accepts (orders.count.val + 2) = true) :=
  ⟨restarts_helloWorld_iff ses.noRestart db,
    restarts_insertMany_iff ses.noRestart mode file orders db⟩

/-- A server that refuses the first INSERT, for want of disk space. -/
def insertRefused : PgSession where
  connectError := none
  refuses i := i == 3
  errors _ := .fatal (some "53100") []

/-- No ROLLBACK follows the refused INSERT, in neither program, and in
helloworld the second INSERT is sent inside the aborted transaction. -/
theorem not_rollsBack_insertRefused :
    ¬ RollsBack (HelloWorld.run insertRefused.toSession fun _ => none).log
      ∧ ¬ NoneInAborted
        (HelloWorld.run insertRefused.toSession fun _ => none).log
      ∧ ¬ ∃ w, Settles (InsertMany.run insertRefused.toSession .cut
          ["[]".toList] InsertMany.twoOrders fun _ => none) (.ok w)
        ∧ RollsBack (w.log.drop 3) := by
  obtain ⟨hrolls, hnone⟩ :=
    restarts_helloWorld_iff insertRefused.noRestart fun _ => none
  refine ⟨?_, ?_, ?_⟩
  · rw [hrolls]
    decide
  · rw [hnone]
    decide
  · intro hrun
    obtain ⟨w, hw, h⟩ := hrun
    obtain ⟨w', hw', hrolls', -⟩ := restarts_insertMany_iff
      insertRefused.noRestart .cut ["[]".toList] InsertMany.twoOrders
      fun _ => none
    obtain rfl : w = w' := by
      simpa using hw.unique hw'
    have hreach : InsertMany.Reached insertRefused.toSession .cut
        ["[]".toList] :=
      ⟨rfl, rfl, not_allBlank List.mem_cons_self (by decide)⟩
    rcases hrolls'.mp h with hnot | haccept
    · exact hnot hreach
    · revert haccept
      decide

end CobolExercises.Database
