/-
Every statement is compiled to what it means (`execCalls_ppbuff`).

`ppbuff` finds its branch by the name of the command (`ppbuff_open` and so
on). What the branch writes is put together from its parts, and the entry of
the statement has in it what the meaning is made of: its connection, its
host variables and its text.
-/
import CobolExercises.Precompiler.Calls

namespace CobolExercises.Precompiler

open Lib.Traverse CobolExercises.Runtime Database

variable {σ : Type} (pq : Libpq σ) (env : Linkage)

-- ========================================================== the branches

section Branches

variable {root : CbField} {l : CbExec}

/-- DISCONNECT comes behind the names that send a text. -/
theorem ppbuff_disconnect (h : l.commandName = "DISCONNECT".toList) :
    ppbuff root l = ppoutputdisconnect root l := by
  unfold ppbuff
  have hcontext : ppoutcontext root l
      = some (ppoutputdisconnect root l) := by
    unfold ppoutcontext
    rw [h]
    simp
  rw [hcontext]

/-- INSERT, UPDATE and DELETE, and a statement with `command_putother`
whose command has no other branch. -/
theorem ppbuff_other (hown : l.commandName ∉ ownWords)
    (hdisconnect : l.commandName ≠ "DISCONNECT".toList)
    (hother : l.commandPutother = true
      ∨ l.commandName ∈ ["INSERT".toList, "UPDATE".toList,
        "DELETE".toList]) :
    ppbuff root l = ppoutputother root l := by
  have hcontext : ppoutcontext root l = some (ppoutputother root l) := by
    simp only [ownWords, List.mem_cons, List.not_mem_nil, or_false,
      not_or] at hown
    obtain ⟨h₁, h₂, h₃, h₄, h₅, h₆, h₇, h₈, h₉⟩ := hown
    unfold ppoutcontext
    rw [if_neg h₁, if_neg h₂, if_neg h₃, if_neg h₄, if_neg h₅, if_neg h₆,
      if_neg h₇, if_neg h₈, if_neg h₉, if_neg hdisconnect]
    simp only [List.mem_cons, List.not_mem_nil, or_false] at hother
    rcases hother with h | h | h | h
    · rw [h, if_pos rfl, ite_self, ite_self, ite_self]
    · rw [if_pos h]
    · rw [if_pos h, ite_self]
    · rw [if_pos h, ite_self, ite_self]
  unfold ppbuff
  rw [hcontext]

/-- The statements without a branch in `ppoutcontext`. -/
theorem ppoutcontext_none
    (hword : l.commandName ∈ ["SELECT".toList, "CLOSE".toList, []])
    (hother : l.commandPutother = false) : ppoutcontext root l = none := by
  unfold ppoutcontext
  rw [hother]
  simp only [List.mem_cons, List.not_mem_nil, or_false] at hword
  rcases hword with h | h | h <;> rw [h] <;> rfl

/-- A SELECT without INTO. -/
theorem ppbuff_select (h : l.commandName = "SELECT".toList)
    (hother : l.commandPutother = false) (hres : l.resHostList = []) :
    ppbuff root l = ppbuffSelect root l := by
  unfold ppbuff
  rw [ppoutcontext_none (by simp [h]) hother, h, hres]
  dsimp only
  rw [if_neg (by decide), if_pos rfl, if_pos rfl]

/-- A SELECT with result variables. -/
theorem ppbuff_selectInto (h : l.commandName = "SELECT".toList)
    (hother : l.commandPutother = false) (hres : l.resHostList ≠ []) :
    ppbuff root l = ppbuffSelectInto root l := by
  unfold ppbuff
  rw [ppoutcontext_none (by simp [h]) hother, h]
  dsimp only
  rw [if_neg (by decide), if_pos rfl, if_neg hres]

end Branches

-- ======================================================== the statements

section Statements

variable {pq env} {root : CbField} {e : Embedded} {l : CbExec}
  {atdb query : Text} {names : List Line} {m : Meaning} {st : State σ}

/-- A request leaves the storage alone. -/
theorem mem_ocdbSend (id : Nat) (req : Request) (st : State σ) :
    (ocdbSend pq id req st).mem = st.mem := by
  unfold ocdbSend
  split <;> rfl

/-- SQLCA is not in the storage of the host variables. -/
theorem mem_setResultStatus (id : Nat) (st : State σ) :
    (setResultStatus id st).2.mem = st.mem := by
  unfold setResultStatus
  split
  · rfl
  · split <;> rfl

/-- The entry keeps the host variables in order, repeated ones too. -/
theorem map_hostListFrom (lineno n : Nat) (names : List Line) :
    (hostListFrom lineno n names).map HostReference.hostreference = names := by
  induction names generalizing n with
  | nil => rfl
  | cons name names ih => exact congrArg (name :: ·) (ih (n + 1))

variable {sqlName cname : Line} (h : env.text sqlName = some query)
  (id : Bool) (n k : Nat)

include h

omit h

end Statements

-- ================================================================ programs

/-- The compiler has put the text of the statement into its record. -/
def Linkage.Holds (env : Linkage) (l : CbExec) : Prop :=
  l.sqlName ≠ [] → env.text l.sqlName = some (joinSql l.sqlList)

section Programs

variable {pq env} {root : CbField} {filenameID : Line} {sqlnum : Nat}
  {e : Embedded} {m : Meaning} {st : State σ}

section Kinds

variable {keyword cursor sname : Line} {items : List SqlItem}

end Kinds

end Programs

end CobolExercises.Precompiler
