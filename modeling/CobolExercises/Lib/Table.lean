/-
Tables with subscripts from one, filled up to a cursor.

A table is a function of the subscript; what lies past the cursor is
scratch. `entries t n` is the filled part in subscript order. Storing one
past the cursor appends (`entries_store`), because a scan depends on its
own subscripts only (`scan_congr`); a scan that has `m + 1` subscripts to
go from `i` still has `i` itself and then `m` from `i + 1` (`scan_cons`).
-/
import Mathlib.Data.List.Range
import Mathlib.Logic.Function.Basic

namespace Lib.Table

universe u

variable {α : Type u}

/-- The entries at the `m` subscripts from `i` on. -/
def scan (t : Nat → α) (i m : Nat) : List α := (List.range' i m).map t

/-- The entries of a table filled up to subscript `n`. -/
def entries (t : Nat → α) (n : Nat) : List α := scan t 1 n

theorem scan_zero (t : Nat → α) (i : Nat) : scan t i 0 = [] := rfl

theorem scan_cons (t : Nat → α) (i m : Nat) :
    scan t i (m + 1) = t i :: scan t (i + 1) m := by
  rw [scan, List.range'_succ, List.map_cons, scan]

/-- Only the subscripts of the scan matter. -/
theorem scan_congr {t t' : Nat → α} {i m : Nat}
    (h : ∀ j, i ≤ j → j < i + m → t j = t' j) : scan t i m = scan t' i m := by
  refine List.map_congr_left fun j hj => ?_
  obtain ⟨hlo, hhi⟩ := List.mem_range'_1.mp hj
  exact h j hlo hhi

/-- A store one past the cursor appends the entry. -/
theorem entries_store (t : Nat → α) (n : Nat) (a : α) :
    entries (Function.update t (n + 1) a) (n + 1) = entries t n ++ [a] := by
  have hold : scan (Function.update t (n + 1) a) 1 n = scan t 1 n := by
    refine scan_congr fun j _ hhi => ?_
    rw [Function.update_of_ne (by omega)]
  have hnew : Function.update t (n + 1) a (1 + n) = a := by
    rw [Nat.add_comm, Function.update_self]
  rw [entries, scan, List.range'_1_concat, List.map_append, ← scan, hold,
    List.map_singleton, hnew, entries]

end Lib.Table
