/-
A transactional store that serves one client, request by request.

# The store

The committed state changes only at the end of a transaction. A request
that fails inside a transaction aborts it: until the transaction is
ended every further request but its end is rejected, and ending it with
COMMIT rolls it back. `refuse` is the store's freedom to reject a
request it could have served: a constraint checked late, a lock, a lost
resource.

# What a client can rely on

The store inside a transaction that started from `d` is known from two
things: the state `p` the requests have worked out, and whether one of
them has failed (`working`). A request steps both (`handle_exec`), and
the end of the transaction commits `p` exactly when nothing has failed
(`handle_commit`).
-/
import Mathlib.Logic.Basic

namespace Lib.Transaction

universe u

variable {δ : Type u}

-- ============================================================== the store

/-- Where the client stands: outside a transaction, inside one with the
state worked out so far, or inside one that has failed. -/
inductive Txn (δ : Type u) where
  | none
  | pending (p : δ)
  | aborted

/-- The committed state and the client's transaction. -/
structure Server (δ : Type u) where
  committed : δ
  txn : Txn δ

/-- What a client can ask for; `exec f` is a statement, which fails by
itself where `f` has no value. -/
inductive Request (δ : Type u) where
  | begin
  | commit
  | rollback
  | exec (f : δ → Option δ)

namespace Txn

/-- Nothing but the end of the transaction is served any more. -/
def isAborted : Txn δ → Bool
  | .aborted => true
  | _ => false

/-- The transaction that has worked out `p`, with no failure if `ok`. -/
def working (ok : Bool) (p : δ) : Txn δ :=
  if ok then .pending p else .aborted

@[simp] theorem working_true (p : δ) : working true p = .pending p := rfl

@[simp] theorem working_false (p : δ) : working false p = .aborted := rfl

@[simp] theorem isAborted_working (ok : Bool) (p : δ) :
    (working ok p).isAborted = !ok := by
  cases ok <;> rfl

end Txn

namespace Server

/-- Serve a request: whether it was accepted, and the store after it. -/
def handle (s : Server δ) (refuse : Bool) : Request δ → Bool × Server δ
  | .begin =>
      match s.txn, refuse with
      | .none, false => (true, { s with txn := .pending s.committed })
      | .pending p, false => (true, { s with txn := .pending p })
      | .pending _, true => (false, { s with txn := .aborted })
      | _, _ => (false, s)
  | .commit =>
      match s.txn, refuse with
      | .pending p, false => (true, { committed := p, txn := .none })
      | _, _ => (!refuse, { s with txn := .none })
  | .rollback =>
      if refuse then (false, s) else (true, { s with txn := .none })
  | .exec f =>
      match s.txn, refuse with
      | .none, false =>
          match f s.committed with
          | some d => (true, { s with committed := d })
          | none => (false, s)
      | .pending p, false =>
          match f p with
          | some p' => (true, { s with txn := .pending p' })
          | none => (false, { s with txn := .aborted })
      | .pending _, true => (false, { s with txn := .aborted })
      | _, _ => (false, s)

/-- The client is gone: its open transaction is discarded. -/
def close (s : Server δ) : Server δ := { s with txn := .none }

-- ======================================================== one transaction

/-- A statement that the state worked out so far allows is accepted unless
it is refused or an earlier one has failed. -/
theorem handle_exec {d p p' : δ} {ok refuse : Bool} {f : δ → Option δ}
    (hf : f p = some p') :
    handle ⟨d, .working ok p⟩ refuse (.exec f)
      = (ok && !refuse, ⟨d, .working (ok && !refuse) p'⟩) := by
  cases ok <;> cases refuse <;> simp [handle, hf]

/-- COMMIT makes the work permanent exactly when nothing has failed; in
any case the transaction is over. -/
theorem handle_commit (d p : δ) (ok refuse : Bool) :
    handle ⟨d, .working ok p⟩ refuse .commit
      = (!refuse, ⟨if ok && !refuse then p else d, .none⟩) := by
  cases ok <;> cases refuse <;> rfl

/-- BEGIN commits nothing. -/
theorem handle_begin_committed (s : Server δ) (refuse : Bool) :
    (s.handle refuse .begin).2.committed = s.committed := by
  unfold handle
  rcases s with ⟨d, _ | p | _⟩ <;> cases refuse <;> rfl

/-- ROLLBACK commits nothing. -/
theorem handle_rollback_committed (s : Server δ) (refuse : Bool) :
    (s.handle refuse .rollback).2.committed = s.committed := by
  cases refuse <;> rfl

end Server

end Lib.Transaction
