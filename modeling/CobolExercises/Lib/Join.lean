/-
Grouped joins of two lists, and the reports written from them.

# The join

`groupJoin f g as bs` lists the left rows in order, each with the right
rows of its key, in order. It is the meaning a report program has in
mind whatever loops it uses; nothing of the loops is in it.

# From tests to joins

A nested loop tests every right row for every left row. `flatMap_ite`
turns the test into a filter, and `flatMap_groupJoin` turns a report
over the left rows with their filtered right rows into a report over
the join.

# Blocks

Reports made of blocks of one length are compared block by block
(`flatMap_eq_flatMap_iff`).
-/
import Mathlib.Data.List.Basic

namespace Lib.Join

variable {α β γ κ : Type*}

-- ============================================================== the join

/-- Every left row with the right rows of its key, both in order. -/
def groupJoin [DecidableEq κ] (f : α → κ) (g : β → κ) (as : List α)
    (bs : List β) : List (α × List β) :=
  as.map fun a => (a, bs.filter fun b => f a = g b)

variable [DecidableEq κ] {f : α → κ} {g : β → κ} {as : List α} {bs : List β}

-- =============================================================== reports

/-- Output only at the entries that pass a test is output over the
filtered list. -/
theorem flatMap_ite {p : β → Prop} [DecidablePred p] (row : β → List γ)
    (bs : List β) :
    (bs.flatMap fun b => if p b then row b else [])
      = (bs.filter fun b => p b).flatMap row := by
  induction bs with
  | nil => rfl
  | cons b bs ih =>
      rw [List.flatMap_cons, ih]
      by_cases hb : p b
      · rw [if_pos hb, List.filter_cons_of_pos (by simpa using hb),
          List.flatMap_cons]
      · rw [if_neg hb, List.filter_cons_of_neg (by simpa using hb),
          List.nil_append]

/-- A report over the left rows that consults the matching right rows
is a report over the join. -/
theorem flatMap_groupJoin (block : α → List β → List γ) :
    (as.flatMap fun a => block a (bs.filter fun b => f a = g b))
      = (groupJoin f g as bs).flatMap fun p => block p.1 p.2 := by
  unfold groupJoin
  rw [List.flatMap_map]

-- ================================================================ blocks

/-- Two reports whose blocks have the same lengths agree exactly when
their blocks do. -/
theorem flatMap_eq_flatMap_iff {p q : α → List γ}
    (hlen : ∀ a, (p a).length = (q a).length) (as : List α) :
    as.flatMap p = as.flatMap q ↔ ∀ a ∈ as, p a = q a := by
  induction as with
  | nil => simp
  | cons a as ih =>
      rw [List.flatMap_cons, List.flatMap_cons, List.forall_mem_cons, ← ih]
      constructor
      · intro h
        exact List.append_inj h (hlen a)
      · intro h
        obtain ⟨hhead, htail⟩ := h
        rw [hhead, htail]

end Lib.Join
