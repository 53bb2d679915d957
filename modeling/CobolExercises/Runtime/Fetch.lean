/-
Rows in their order: what a FETCH finds, whatever calls come before it.

# Counting

Along a run the rows are counted that the server hands out to the FETCHes of
a cursor (`handedOut`). The runtime has a count of its own in SQLERRD(3),
which starts at DECLARE and goes on through CLOSE and OPEN; the rows of a
FETCH that ends in SQLCODE -212 are handed out, but neither stored nor
counted there (`countedOut`).

# What is forbidden

The calls in between may be about anything but an OPEN of the cursor
(`View.reading`); statements leave cursors to the runtime.
-/
import CobolExercises.Runtime.Cursors

namespace CobolExercises.Runtime

open Lib Database

variable {σ : Type} {pq : Libpq σ} {v : View σ} {server : σ} {mem : Storage}
  {st st' : State σ} {cname : Text} {cursor : Cursor}

-- ================================================================ counting

/-- The rows a call is handed, if it fetches from the cursor. -/
def handed (pq : Libpq σ) (cname : Text) (call : Call) (st _st' : State σ) :
    Nat :=
  if call.fetched = some cname then
    (fetchReply pq cname call st).rows.length
  else 0

/-- Those of them that the runtime counts. -/
def counted (pq : Libpq σ) (cname : Text) (call : Call)
    (st st' : State σ) : Nat :=
  if st'.sqlca.sqlcode = -212 then 0 else handed pq cname call st st'

/-- The cursor is not opened. -/
def View.reading (v : View σ) (cname : Text) : Rules :=
  ⟨v.touches, (· ≠ cname), fun _ => True⟩

section Order

variable {id n : Nat} {tuples : Int} {rows : List (List Text)}

end Order

end CobolExercises.Runtime
