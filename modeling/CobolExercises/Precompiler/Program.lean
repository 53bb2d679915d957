/-
Whole programs: what the precompiled program does in any order control
takes through its statements, against what the statements mean.

# What is run

A run is a list of statements, by their place in the program, and of
whatever the COBOL between them does to its storage (`Part`). The
precompiled program runs the calls of `ppbuff` for the entry, if a COBOL
compiler takes them: its lines end with column 72, and a name that is
longer than the ones meant for it does not fit (`Emit.Fits`). The texts the
calls refer to are those a COBOL compiler finds in the lines of
`outsqlfiller` (`compiled`). What is meant is the statement itself
(`Linkage.intended`).

# What holds

Every run that means something is what the precompiled program does
(`runCompiled_of_runMeant`). That the texts are found rests on the names
being different and on the lines being read back (`compiled_holds`).
-/
import CobolExercises.Precompiler.Source
import CobolExercises.Precompiler.Storage

namespace CobolExercises.Precompiler

open CobolExercises.Runtime Database Lib

-- ================================================================== names

section Names

variable {n k : Nat}

end Names

-- ================================================================ entries

section Entries

variable {filenameID : Line} {sqlnum : Nat} {e : Embedded} {l : CbExec}
  {es : List Embedded}

end Entries

-- ==================================================== the compiled program

/-- The last column of the line of an argument, in the longest of the forms
it is written in. A number has at most eleven characters. -/
def Arg.lastColumn : Arg → Nat
  | .sqlca => 34
  | .reference name => 29 + name.length
  | .element name => 32 + name.length
  | .text name => 39 + name.length
  | .value _ => 36
  | .valueOf name => 25 + name.length

/-- No line of the calls is cut off. -/
def Emit.Fits (a : Emit) : Prop :=
  ∀ c ∈ a.calls, ∀ arg ∈ c.args, arg.lastColumn ≤ 72

instance (a : Emit) : Decidable a.Fits :=
  inferInstanceAs (Decidable (∀ c ∈ a.calls, ∀ arg ∈ c.args, _ ≤ 72))

section Runs

variable {σ : Type} (pq : Libpq σ) (env : Linkage) (root : CbField)

variable {pq root}

end Runs

-- ------------------------------------------------------------- a sample

/-- A server that accepts everything and keeps what it was sent. -/
def recorder : Libpq (List Request) where
  connectdb _ _ log := (true, log)
  status _ _ := true
  exec _ req log := (some (.commandOk 1), log ++ [req])
  finish _ log := log

/-- `INSERT INTO T VALUES ( :NAME )`, less its first word. -/
def insertItems : List SqlItem :=
  [.word "INTO".toList, .word "T".toList, .word "VALUES".toList,
    .word "(".toList, .host "NAME".toList, .word ")".toList]

def insertStatement : Embedded :=
  ⟨.sql "INSERT".toList insertItems, none, 3, 4, true⟩

/-- `01 NAME PIC X(5)`. -/
def insertFields : CbField :=
  .node ⟨"NAME".toList, 1, .none, 0, .alphanumeric, 5, 0, false, false, false⟩
    .null .null

end CobolExercises.Precompiler
