/-
A text cut at the first or at the last separator (`strchr`, `strrchr`).

The separator itself is in neither part. Without a separator there is no
second part, which is not the same as an empty one.
-/
import Mathlib.Data.List.Basic

namespace Lib.Cut

variable {α : Type*} [DecidableEq α] {c : α} {a b l : List α}

-- ======================================================= the operations

/-- What is in front of the first separator, and what is behind it. -/
def cutFirst (c : α) : List α → List α × Option (List α)
  | [] => ([], none)
  | d :: l =>
      if d = c then ([], some l)
      else
        let cut := cutFirst c l
        (d :: cut.1, cut.2)

/-- What is in front of the last separator, and what is behind it. -/
def cutLast (c : α) (l : List α) : List α × Option (List α) :=
  match cutFirst c l.reverse with
  | (_, none) => (l, none)
  | (behind, some front) => (front.reverse, some behind.reverse)

-- ============================================================= the parts

/-- A text without a separator is all in the first part. -/
theorem cutFirst_of_not_mem (h : c ∉ l) : cutFirst c l = (l, none) := by
  induction l with
  | nil => rfl
  | cons d l ih =>
      obtain ⟨hd, hl⟩ := List.ne_and_not_mem_of_not_mem_cons h
      rw [cutFirst, if_neg (Ne.symm hd), ih hl]

/-- The first separator is the one with none in front of it. -/
theorem cutFirst_append (h : c ∉ a) :
    cutFirst c (a ++ c :: b) = (a, some b) := by
  induction a with
  | nil => rw [List.nil_append, cutFirst, if_pos rfl]
  | cons d a ih =>
      obtain ⟨hd, ha⟩ := List.ne_and_not_mem_of_not_mem_cons h
      rw [List.cons_append, cutFirst, if_neg (Ne.symm hd), ih ha]

theorem cutLast_of_not_mem (h : c ∉ l) : cutLast c l = (l, none) := by
  rw [cutLast, cutFirst_of_not_mem fun hmem => h (List.mem_reverse.mp hmem)]

/-- The last separator is the one with none behind it: the first from the
other end. -/
theorem cutLast_append (h : c ∉ b) :
    cutLast c (a ++ c :: b) = (a, some b) := by
  have hreverse : (a ++ c :: b).reverse = b.reverse ++ c :: a.reverse := by
    rw [List.reverse_append, List.reverse_cons, List.append_assoc,
      List.singleton_append]
  rw [cutLast, hreverse, cutFirst_append fun hmem => h
    (List.mem_reverse.mp hmem)]
  dsimp only
  rw [List.reverse_reverse, List.reverse_reverse]

end Lib.Cut
