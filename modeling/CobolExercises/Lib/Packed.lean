/-
Bytes as two half bytes each, the high one first.

Bytes made of half bytes fall apart into the same half bytes again
(`halves_ofNat`); the last byte ends with the last half byte
(`toNat_getLastD_mod`).
-/
import Mathlib.Data.List.Basic

namespace Lib.Packed

variable {u l : Nat} {bytes : List Char}

/-- The half bytes of a byte string. -/
def halves : List Char → List Nat
  | [] => []
  | b :: bytes => b.toNat / 16 :: b.toNat % 16 :: halves bytes

theorem toNat_ofNat (h : u < 16) (h' : l < 16) :
    (Char.ofNat (16 * u + l)).toNat = 16 * u + l := by
  have hvalid : (16 * u + l).isValidChar := .inl (by omega)
  rw [Char.ofNat, dif_pos hvalid]
  rfl

/-- A byte put together from two halves falls apart into them. -/
theorem halves_ofNat (h : u < 16) (h' : l < 16) (bytes : List Char) :
    halves (Char.ofNat (16 * u + l) :: bytes) = u :: l :: halves bytes := by
  rw [halves, toNat_ofNat h h']
  congr 1
  · omega
  · congr 1
    omega

@[simp] theorem length_halves (bytes : List Char) :
    (halves bytes).length = 2 * bytes.length := by
  induction bytes with
  | nil => rfl
  | cons b bytes ih =>
      rw [halves, List.length_cons, List.length_cons, ih, List.length_cons]
      omega

/-- The last half byte is the low half of the last byte. -/
theorem toNat_getLastD_mod {hs : List Nat} (c : Char)
    (h : halves bytes = hs ++ [l]) : (bytes.getLastD c).toNat % 16 = l := by
  induction bytes generalizing hs c with
  | nil => simp [halves] at h
  | cons b bytes ih =>
      rw [List.getLastD_cons]
      cases bytes with
      | nil =>
          have hlast := congrArg List.getLast? h
          simpa [halves] using hlast
      | cons b' bytes =>
          cases hs with
          | nil => simp [halves] at h
          | cons x hs =>
              cases hs with
              | nil => simp [halves] at h
              | cons y hs =>
                  rw [halves, List.cons_append, List.cons_append] at h
                  exact ih b (List.cons.inj (List.cons.inj h).2).2

end Lib.Packed
