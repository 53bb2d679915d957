/-
Filling a bounded buffer piece by piece, and stopping at the first piece
that does not fit.

What is in the buffer at the end is always a front of all pieces put
together (`prefix_fill`, `fill_eq_append_flatten`), and nothing in it says
whether it is all of them: only their total length does.
-/
import Mathlib.Data.List.Basic

namespace Lib

variable {α : Type*} {limit : Nat} {t : List α} {pieces : List (List α)}

/-- Append the pieces to `t` as long as the text stays shorter than
`limit`; the first piece that does not fit ends it. -/
def fill (limit : Nat) (t : List α) : List (List α) → List α
  | [] => t
  | p :: ps =>
      if t.length + p.length < limit then fill limit (t ++ p) ps else t

/-- The limit is never reached. -/
theorem length_fill_lt (h : t.length < limit) :
    (fill limit t pieces).length < limit := by
  induction pieces generalizing t with
  | nil => exact h
  | cons p ps ih =>
      rw [fill]
      split
      case isTrue hp => exact ih (by rwa [List.length_append])
      case isFalse => exact h

/-- What is in the buffer stays. -/
theorem prefix_fill : t <+: fill limit t pieces := by
  induction pieces generalizing t with
  | nil => exact List.prefix_rfl
  | cons p ps ih =>
      rw [fill]
      split
      · exact (List.prefix_append t p).trans ih
      · exact List.prefix_rfl

/-- With room for all pieces they are all there. -/
theorem fill_eq_append_flatten
    (h : t.length + pieces.flatten.length < limit) :
    fill limit t pieces = t ++ pieces.flatten := by
  induction pieces generalizing t with
  | nil => rw [fill, List.flatten_nil, List.append_nil]
  | cons p ps ih =>
      rw [List.flatten_cons, List.length_append] at h
      rw [fill, if_pos (by omega), ih (by rw [List.length_append]; omega),
        List.append_assoc, List.flatten_cons]

/-- If every piece fits into the empty buffer, the buffer stays empty only
for want of anything to fill it with. -/
theorem fill_nil_eq_nil_iff (h : ∀ p ∈ pieces, p.length < limit) :
    fill limit [] pieces = [] ↔ ∀ p ∈ pieces, p = [] := by
  induction pieces with
  | nil => simp [fill]
  | cons p ps ih =>
      rw [List.forall_mem_cons] at h
      rw [List.forall_mem_cons, fill, List.length_nil, Nat.zero_add,
        if_pos h.1, List.nil_append]
      cases p with
      | nil => simpa using ih h.2
      | cons c cs =>
          constructor
          · intro hnil
            have hle : (c :: cs).length
                ≤ (fill limit (c :: cs) ps).length :=
              prefix_fill.length_le
            rw [hnil] at hle
            simp at hle
          · intro hblank
            obtain ⟨hp, -⟩ := hblank
            cases hp

end Lib
