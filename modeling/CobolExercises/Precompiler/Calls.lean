/-
What the parts of the generated code do: the calls for host variables, for
the variables of a result, for a host table, and the one over a connection.

A part that has not returned runs before those behind it (`execCalls_emit`),
so a statement is put together from its parts. Every lemma here starts from
items that are there (`Linkage.hostVar`, `Linkage.atdb`), and says both
that no error stops the precompiler and what is left in the runtime.
-/
import CobolExercises.Lib.Traverse
import CobolExercises.Precompiler.Meaning

namespace CobolExercises.Precompiler

open Lib.Traverse CobolExercises.Runtime Database

variable {σ : Type} (pq : Libpq σ) (env : Linkage)

-- ====================================================== the calls of a part

section Emit

variable {pq env} {a b : Emit} {st : State σ}

/-- The calls of both parts, if the first has not returned. -/
theorem Emit.calls_append (h : a.returned = false) :
    (a ++ b).calls = a.calls ++ b.calls := by
  show (Emit.append a b).calls = _
  rw [Emit.append, h, if_neg Bool.false_ne_true]

/-- Then it is the second that decides whether the rest is written. -/
theorem Emit.returned_append (h : a.returned = false) :
    (a ++ b).returned = b.returned := by
  show (Emit.append a b).returned = _
  rw [Emit.append, h, if_neg Bool.false_ne_true]

/-- Parts can be taken together from either end. -/
theorem Emit.append_assoc (a b c : Emit) : a ++ b ++ c = a ++ (b ++ c) := by
  show Emit.append (Emit.append a b) c = Emit.append a (Emit.append b c)
  unfold Emit.append
  cases ha : a.returned with
  | true => simp [ha]
  | false =>
      cases hb : b.returned with
      | true => simp [hb]
      | false => simp

/-- Calls run one behind the other, and an undefined one ends the run. -/
theorem execCalls_append (cs cs' : List CobCall) (st : State σ) :
    execCalls pq env (cs ++ cs') st
      = (execCalls pq env cs st).bind (execCalls pq env cs') := by
  induction cs generalizing st with
  | nil => rfl
  | cons c cs ih =>
      rw [List.cons_append, execCalls, execCalls]
      cases (env.call st.mem c).bind fun call => step pq call st with
      | none => rfl
      | some st => exact ih st

/-- The calls of a part that has not returned run before those behind
it. -/
theorem execCalls_emit (h : a.returned = false) :
    execCalls pq env (a ++ b).calls st
      = (execCalls pq env a.calls st).bind (execCalls pq env b.calls) := by
  rw [Emit.calls_append h, execCalls_append]

end Emit

-- ================================================== the host variables

section Hosts

variable {pq env} {root : CbField} {name : Line} {names : List Line}
  {sv : SqlVar} {vars : List SqlVar} {indexed : Bool} {iteration : Int}

/-- The variables of a result are handed over, in this order. -/
structure SetsResults (pq : Libpq σ) (env : Linkage) (vars : List SqlVar)
    (emit : Emit) : Prop where
  returned : emit.returned = false
  run : ∀ hosts results table (st : State σ),
    execCalls pq env emit.calls (withHosts hosts results table st)
      = some (withHosts hosts (results ++ vars) table st)

/-- A part without calls sets nothing. -/
theorem SetsResults.nil : SetsResults pq env [] .nil where
  returned := rfl
  run hosts results table st := by
    rw [List.append_nil]
    rfl

/-- Parts one behind the other set their variables in that order. -/
theorem SetsResults.append {vars' : List SqlVar} {a b : Emit}
    (ha : SetsResults pq env vars a) (hb : SetsResults pq env vars' b) :
    SetsResults pq env (vars ++ vars') (a ++ b) where
  returned := by rw [Emit.returned_append ha.returned, hb.returned]
  run hosts results table st := by
    rw [execCalls_emit ha.returned, ha.run, Option.bind_some, hb.run,
      List.append_assoc]

end Hosts

-- =========================================================== the brackets

section Brackets

variable {pq env} {root : CbField} {e : Embedded} {l : CbExec}
  {atdb : Text} {mem : Storage} {st : State σ}

end Brackets

end CobolExercises.Precompiler
