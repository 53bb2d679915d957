/-
The data items and runtime statements the programs share: alphanumeric
items, group items as byte layouts, decimal counters, STRING, TRIM, and
LINE SEQUENTIAL files.

# What the runtime is taken to do

- A LINE SEQUENTIAL READ delivers each line padded with spaces, or cut,
  to the record width (`PicX.ofLine`).
- A LINE SEQUENTIAL WRITE drops the trailing spaces of the record
  (`PicX.written`).
- STRING writes its sources one after the other over the front of the
  target; what does not fit is lost and what is not reached stays
  (`PicX.string`). The target is not cleared first.
- FUNCTION TRIM of a blank field is empty (`PicX.trim`).
- An unsigned `PIC 9(d)` item without ON SIZE ERROR keeps the `d` low
  digits of a sum: it is a number below `10 ^ d` and its addition wraps
  (`Pic9`).

A character stands for one byte position; every byte is a `Char`, so a
statement for all texts covers all byte contents.
-/
import CobolExercises.Lib.Blank
import CobolExercises.Lib.Run
import Mathlib.Algebra.Group.Nat.Defs
import Mathlib.Data.Fin.Basic

namespace CobolExercises

open Lib

/-- One line of a text file, without its line end. -/
abbrev Line := List Char

-- ======================================================== alphanumerics

/-- An alphanumeric item `PIC X(n)`: exactly `n` characters. -/
@[ext] structure PicX (n : Nat) where
  chars : List Char
  length_chars : chars.length = n
deriving DecidableEq

namespace PicX

variable {n : Nat}

attribute [simp] length_chars

/-- A line as it arrives in an item of width `n`: by READ from a file,
or by MOVE. -/
def ofLine (n : Nat) (l : Line) : PicX n :=
  ⟨Blank.fit ' ' n l, Blank.length_fit ..⟩

/-- `MOVE SPACES TO item`. -/
def spaces (n : Nat) : PicX n :=
  ⟨List.replicate n ' ', List.length_replicate⟩

/-- The elementary item of width `len` behind the first `start` bytes of a
group item and in front of the last `rest`. -/
def slice (start len rest : Nat) (r : PicX (start + len + rest)) :
    PicX len :=
  ⟨(r.chars.drop start).take len, by
    rw [List.length_take, List.length_drop, r.length_chars]
    omega⟩

/-- `STRING sources DELIMITED BY SIZE INTO item`. -/
def string (r : PicX n) (sources : List Line) : PicX n :=
  ⟨Blank.overlay r.chars sources.flatten, by
    rw [Blank.length_overlay, r.length_chars]⟩

/-- The byte `item(i:1)` reads; `near` is what lies around the item. -/
def charAt (r : PicX n) (near : Nat → Char) (i : Nat) : Char :=
  if 1 ≤ i ∧ i ≤ n then r.chars.getD (i - 1) ' ' else near i

/-- `MOVE c TO item(i:1)`; outside the item it changes other storage. -/
def setChar (r : PicX n) (i : Nat) (c : Char) : PicX n :=
  if 1 ≤ i ∧ i ≤ n then
    ⟨r.chars.set (i - 1) c, by rw [List.length_set, r.length_chars]⟩
  else r

/-- `FUNCTION TRIM(item)`. -/
def trim (r : PicX n) : Line := Blank.trim ' ' r.chars

/-- `FUNCTION TRIM(item TRAILING)`. -/
def trimTrailing (r : PicX n) : Line := Blank.trimEnd ' ' r.chars

/-- The source text of an item `DELIMITED BY SPACE`. -/
def untilSpace (r : PicX n) : Line := r.chars.takeWhile (· != ' ')

/-- The line a LINE SEQUENTIAL WRITE of the item leaves in the file. -/
def written (r : PicX n) : Line := Blank.trimEnd ' ' r.chars

@[simp] theorem chars_spaces : (spaces n).chars = List.replicate n ' ' := rfl

@[simp] theorem chars_ofLine (l : Line) :
    (ofLine n l).chars = Blank.fit ' ' n l := rfl

@[simp] theorem chars_string (r : PicX n) (sources : List Line) :
    (r.string sources).chars = Blank.overlay r.chars sources.flatten := rfl

/-- A position inside the item reads the item. -/
theorem charAt_succ {r : PicX n} {near : Nat → Char} {i : Nat}
    (hi : i < n) : r.charAt near (i + 1) = r.chars.getD i ' ' := by
  rw [charAt, if_pos ⟨by omega, by omega⟩, Nat.add_sub_cancel]

/-- Writing behind the text of an item extends the text. -/
theorem chars_setChar_of_fit {r : PicX n} {l : Line}
    (h : r.chars = Blank.fit ' ' n l) (hlen : l.length < n) (c : Char) :
    (r.setChar (l.length + 1) c).chars = Blank.fit ' ' n (l ++ [c]) := by
  rw [setChar, if_pos ⟨by omega, by omega⟩]
  show r.chars.set (l.length + 1 - 1) c = _
  rw [h, Nat.add_sub_cancel, Blank.set_fit hlen]

/-- One more byte of an item. -/
theorem take_succ_chars {r : PicX n} {i : Nat} (hi : i < n) :
    r.chars.take (i + 1) = r.chars.take i ++ [r.chars.getD i ' '] := by
  have hlt : i < r.chars.length := by
    rw [r.length_chars]
    exact hi
  rw [List.take_succ_eq_append_getElem hlt, List.getD_eq_getElem _ _ hlt]

theorem length_trim_le (r : PicX n) : r.trim.length ≤ n := by
  calc r.trim.length ≤ r.chars.length := Blank.length_trim_le ' ' _
    _ = n := r.length_chars

/-- The text of a field up to its first space has no space in it. -/
theorem ne_space_of_mem_untilSpace {r : PicX n} {c : Char}
    (hc : c ∈ r.untilSpace) : c ≠ ' ' := by
  simpa using List.mem_takeWhile_imp hc

theorem length_untilSpace_le (r : PicX n) : r.untilSpace.length ≤ n := by
  calc r.untilSpace.length ≤ r.chars.length :=
        (List.takeWhile_prefix _).length_le
    _ = n := r.length_chars

/-- An item is blank when all its bytes are. -/
theorem eq_spaces_iff {r : PicX n} :
    r = spaces n ↔ ∀ c ∈ r.chars, c = ' ' := by
  rw [PicX.ext_iff, chars_spaces, List.eq_replicate_iff]
  simp

/-- A cleared item that a STRING fills without overflow is written as
the sources, up to trailing spaces. -/
theorem written_string_spaces {sources : List Line}
    (h : sources.flatten.length ≤ n) :
    ((spaces n).string sources).written
      = Blank.trimEnd ' ' sources.flatten := by
  rw [written, chars_string, chars_spaces, Blank.overlay_replicate,
    Blank.trimEnd_fit h]

/-- Two items and a space between them, strung into an item one byte too
narrow, lose the last byte only. -/
theorem joined_eq_chars_string_concat {m k : Nat} (a : PicX m)
    (b : PicX (k + 1)) :
    a.chars ++ ' ' :: b.chars
      = ((spaces (m + 1 + k)).string
          [a.chars, " ".toList, b.chars]).chars
        ++ [b.chars.getD k ' '] := by
  have hflat : [a.chars, " ".toList, b.chars].flatten
      = a.chars ++ ' ' :: b.chars := by
    simp
  have hlen : (a.chars ++ ' ' :: b.chars).length = m + 1 + k + 1 := by
    rw [List.length_append, List.length_cons, a.length_chars,
      b.length_chars]
    omega
  have hlast : (a.chars ++ ' ' :: b.chars)[m + 1 + k]
      = b.chars.getD k ' ' := by
    rw [← List.getD_eq_getElem _ ' ',
      List.getD_append_right _ _ _ _ (by rw [a.length_chars]; omega),
      a.length_chars, show m + 1 + k - m = k + 1 by omega,
      List.getD_cons_succ]
  rw [chars_string, chars_spaces, Blank.overlay_replicate, Blank.fit,
    hflat, hlen, show m + 1 + k - (m + 1 + k + 1) = 0 by omega,
    List.replicate_zero, List.append_nil, ← hlast,
    ← List.take_succ_eq_append_getElem, List.take_of_length_le (by omega)]

end PicX

-- ============================================================== counters

/-- An unsigned decimal item `PIC 9(d)`; ADD without ON SIZE ERROR is
the addition of `Fin`, which drops what exceeds `d` digits. -/
abbrev Pic9 (d : Nat) := Fin (10 ^ d)

/-- `MOVE n TO item`: the `d` low digits of `n`. -/
abbrev Pic9.ofNat (d n : Nat) : Pic9 d := Fin.ofNat (10 ^ d) n

instance Pic9.instOfNat (d n : Nat) : OfNat (Pic9 d) n :=
  ⟨Pic9.ofNat d n⟩

/-- Counting up by one is exact as long as the digits suffice. -/
theorem Pic9.val_add_one {d : Nat} (hd : 0 < d) (i : Pic9 d)
    (h : i.val + 1 < 10 ^ d) : (i + 1).val = i.val + 1 := by
  have hone : (1 : Nat) < 10 ^ d := Nat.one_lt_pow (by omega) (by omega)
  rw [Fin.val_add, Fin.val_one', Nat.mod_eq_of_lt hone,
    Nat.mod_eq_of_lt h]

-- ================================================================ aborts

/-- The ways a run stops before its STOP RUN: a table subscript outside
the table. -/
inductive Abort where
  | subscript (i : Nat)
deriving DecidableEq, Repr

/-- A run of a program, bounded by fuel. -/
abbrev Exec (α : Type) := Run Abort α

/-- The subscript `table(i)`, the table being declared `OCCURS m TIMES`;
`none` is a table that takes every subscript. -/
def subscript (occurs : Option Nat) (i : Nat) : Exec Nat :=
  match occurs with
  | none => .ok i
  | some m => if 1 ≤ i ∧ i ≤ m then .ok i else .abort (.subscript i)

theorem subscript_eq_ok {occurs : Option Nat} {i : Nat}
    (h : ∀ m ∈ occurs, 1 ≤ i ∧ i ≤ m) : subscript occurs i = .ok i := by
  cases occurs with
  | none => rfl
  | some m => rw [subscript, if_pos (h m rfl)]

theorem subscript_eq_abort {m i : Nat} (h : m < i) :
    subscript (some m) i = .abort (.subscript i) := by
  rw [subscript, if_neg (by omega)]

end CobolExercises
