/-
Bounded buffers written byte by byte, as a C program writes them.

# Writes

`write off src buf` puts `src` into `buf` from position `off` on. A store
in front of the buffer or behind it is not a value but `none`, so that a
proof about the value of a write is at the same time a proof that the
write keeps to the buffer; an empty `src` stores nothing wherever `off`
points.

# What is where

A write is possible exactly when all of `src` lies inside
(`write_isSome_iff`), and it replaces a segment and nothing else
(`write_segment`). The front of a buffer is what a write from its first
byte replaces (`write_front`).
-/
import Mathlib.Data.List.Basic

namespace Lib.Buffer

variable {α : Type*} {off : Int} {src buf old pre post : List α}

-- ================================================================ writes

/-- The bytes `src` stored one after the other from position `off` on. -/
def write (off : Int) : List α → List α → Option (List α)
  | [], buf => some buf
  | c :: src, buf =>
      if 0 ≤ off ∧ off < buf.length then
        write (off + 1) src (buf.set off.toNat c)
      else none

@[simp] theorem write_nil (off : Int) (buf : List α) :
    write off [] buf = some buf := rfl

/-- A buffer keeps its size. -/
theorem length_of_write {buf' : List α} (h : write off src buf = some buf') :
    buf'.length = buf.length := by
  induction src generalizing off buf with
  | nil =>
      cases h
      rfl
  | cons c src ih =>
      rw [write] at h
      split at h
      case isTrue => rw [ih h, List.length_set]
      case isFalse => cases h

/-- A write succeeds exactly when every byte of it lies in the buffer. -/
theorem write_isSome_iff (off : Int) (src buf : List α) :
    (write off src buf).isSome = true
      ↔ src = [] ∨ 0 ≤ off ∧ off + src.length ≤ buf.length := by
  induction src generalizing off buf with
  | nil => simp
  | cons c src ih =>
      rw [write]
      split
      case isTrue hin =>
          rw [ih, List.length_set, List.length_cons]
          constructor
          · intro h
            refine .inr ⟨hin.1, ?_⟩
            cases h with
            | inl hnil =>
                rw [hnil, List.length_nil]
                omega
            | inr hrest => omega
          · intro h
            cases h with
            | inl hnil => cases hnil
            | inr hrest =>
                refine .inr ⟨by omega, ?_⟩
                have := hrest.2
                omega
      case isFalse hout =>
          simp only [Option.isSome_none, Bool.false_eq_true, false_iff,
            List.length_cons, reduceCtorEq, false_or]
          intro h
          apply hout
          omega

/-- A write with something behind it that depends on the size of the
buffer only. -/
theorem isSome_write_bind {β : Type*} {f : List α → Option β} {p : Prop}
    (h : ∀ buf', buf'.length = buf.length → ((f buf').isSome = true ↔ p)) :
    ((write off src buf).bind f).isSome = true
      ↔ (src = [] ∨ 0 ≤ off ∧ off + src.length ≤ buf.length) ∧ p := by
  rw [← write_isSome_iff]
  cases hw : write off src buf with
  | none => simp
  | some buf' => simpa using h buf' (length_of_write hw)

-- ============================================================== segments

/-- A write replaces the segment it covers. -/
theorem write_segment (hlen : old.length = src.length)
    (hoff : off = pre.length) :
    write off src (pre ++ (old ++ post)) = some (pre ++ (src ++ post)) := by
  subst hoff
  induction src generalizing pre old with
  | nil => rw [List.length_eq_zero_iff.mp hlen, write_nil]
  | cons c src ih =>
      cases old with
      | nil => cases hlen
      | cons o old =>
          have hin : (0 : Int) ≤ pre.length
              ∧ (pre.length : Int)
                < (pre ++ (o :: old ++ post)).length := by
            simp only [List.length_append, List.length_cons]
            omega
          have hset : (pre ++ (o :: old ++ post)).set
                (pre.length : Int).toNat c
              = (pre ++ [c]) ++ (old ++ post) := by
            simp
          have hnext : ((pre.length : Int) + 1) = (pre ++ [c]).length := by
            simp
          rw [write, if_pos hin, hset, hnext,
            ih (Nat.succ.inj hlen)]
          simp

/-- A write from the first byte on replaces the front. -/
theorem write_front (hlen : old.length = src.length) :
    write 0 src (old ++ post) = some (src ++ post) := by
  show write 0 src ([] ++ (old ++ post)) = some ([] ++ (src ++ post))
  exact write_segment hlen rfl

end Lib.Buffer
