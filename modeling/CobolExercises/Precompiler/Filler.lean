/-
The records the precompiler puts into WORKING-STORAGE, as a COBOL compiler
reads them.

# Source format

Column 7 of a line says whether it is a comment, columns 8 to 72 are its
text (`area`). Words and literals are the tokens of that text.

# Records

A record is `01 NAME.` and items behind it, each of them
`02 FILLER PIC X(n) VALUE literal` with more literals joined by `&` and a
period at the end (`records`). Its storage is the literals, each item
padded with blanks or cut to its size. `X"00"` is one byte.
-/
import CobolExercises.Lib.Quoted
import CobolExercises.Lib.Blank
import CobolExercises.Lib.Decimal

namespace CobolExercises.Precompiler

open Lib Quoted

/-- A line of bytes, or a part of one. -/
abbrev Line := List Char

-- ========================================================= source format

/-- The text of a line; a comment has none. -/
def area (line : Line) : Line :=
  if line.getD 6 ' ' = '*' then [] else (line.drop 7).take 65

/-- The tokens of the lines. -/
def tokens : List Line → Option (List Token)
  | [] => some []
  | line :: lines =>
      (lex (area line)).bind fun first =>
        (tokens lines).map fun rest => first ++ rest

/-- The words of lines are those of each of them. -/
theorem tokens_append {lines lines' : List Line} {ts ts' : List Token}
    (h : tokens lines = some ts) (h' : tokens lines' = some ts') :
    tokens (lines ++ lines') = some (ts ++ ts') := by
  induction lines generalizing ts with
  | nil =>
      obtain rfl := Option.some.inj h
      exact h'
  | cons line lines ih =>
      obtain ⟨first, hfirst, h⟩ := Option.bind_eq_some_iff.mp h
      obtain ⟨rest, hrest, rfl⟩ := Option.map_eq_some_iff.mp h
      rw [List.cons_append, tokens, hfirst, Option.bind_some, ih hrest,
        Option.map_some, List.append_assoc]

-- =============================================================== records

/-- The size in `X(n)`. -/
def pictureSize : Line → Option Nat
  | 'X' :: '(' :: digits =>
      let n := Nat.ofDigitChars 10 digits.dropLast 0
      if digits.getLast? = some ')' ∧ digits.dropLast.all Char.isDigit
        ∧ 0 < n then some n else none
  | _ => none

/-- The bytes of a hexadecimal literal; one byte is enough here. -/
def hexBytes (digits : Line) : Option Line :=
  if digits = "00".toList then some ['\x00'] else none

/-- Between the items of a record, with its name and the storage so far, or
behind a literal of an item, with its size and value. -/
inductive Reading where
  | items (name bytes : Line)
  | value (name bytes : Line) (n : Nat) (value : Line)

/-- The records from there on. -/
def recordsFrom : Reading → List Token → Option (List (Line × Line))
  | .items name bytes, [] => some [(name, bytes)]
  | .items name bytes, .word level :: ts =>
      if level = "01".toList then
        match ts with
        | .word next :: rest =>
            (recordsFrom (.items next.dropLast []) rest).map
              ((name, bytes) :: ·)
        | _ => none
      else if level = "02".toList then
        match ts with
        | .word filler :: .word pic :: .word size :: .word value
            :: .quoted s :: rest =>
            if filler = "FILLER".toList ∧ pic = "PIC".toList
              ∧ value = "VALUE".toList then
              match pictureSize size with
              | some n => recordsFrom (.value name bytes n s) rest
              | none => none
            else none
        | .word filler :: .word pic :: .word size :: .word value
            :: .word x :: .quoted s :: rest =>
            if filler = "FILLER".toList ∧ pic = "PIC".toList
              ∧ value = "VALUE".toList ∧ x = "X".toList then
              match pictureSize size, hexBytes s with
              | some n, some s => recordsFrom (.value name bytes n s) rest
              | _, _ => none
            else none
        | _ => none
      else none
  | .items _ _, .quoted _ :: _ => none
  | .value name bytes n value, .word w :: ts =>
      if w = ".".toList then
        recordsFrom (.items name (bytes ++ Blank.fit ' ' n value)) ts
      else if w = "&".toList then
        match ts with
        | .quoted s :: rest =>
            recordsFrom (.value name bytes n (value ++ s)) rest
        | _ => none
      else none
  | .value _ _ _ _, _ => none

section Reading

variable (name bytes : Line) (n : Nat) (value s : Line) (rest : List Token)

/-- A period ends an item, which is filled up to its size. -/
theorem recordsFrom_period :
    recordsFrom (.value name bytes n value) (.word ['.'] :: rest)
      = recordsFrom (.items name (bytes ++ Blank.fit ' ' n value)) rest := by
  rw [recordsFrom.eq_def]
  exact if_pos rfl

/-- A literal behind an ampersand continues the value. -/
theorem recordsFrom_more :
    recordsFrom (.value name bytes n value)
        (.word ['&'] :: .quoted s :: rest)
      = recordsFrom (.value name bytes n (value ++ s)) rest := by
  rw [recordsFrom.eq_def]
  exact (if_neg (by decide)).trans (if_pos rfl)

/-- An item whose value is a literal. -/
theorem recordsFrom_item {size : Line} (hsize : pictureSize size = some n) :
    recordsFrom (.items name bytes)
        (.word "02".toList :: .word "FILLER".toList :: .word "PIC".toList
          :: .word size :: .word "VALUE".toList :: .quoted s :: rest)
      = recordsFrom (.value name bytes n s) rest := by
  rw [recordsFrom.eq_def]
  refine (if_neg (by decide)).trans ((if_pos rfl).trans ?_)
  refine (if_pos ⟨rfl, rfl, rfl⟩).trans ?_
  rw [hsize]

/-- The item with the byte that ends the text. -/
theorem recordsFrom_zero :
    recordsFrom (.items name bytes)
        (.word "02".toList :: .word "FILLER".toList :: .word "PIC".toList
          :: .word "X(1)".toList :: .word "VALUE".toList
          :: .word "X".toList :: .quoted "00".toList :: .word ['.'] :: rest)
      = recordsFrom (.items name (bytes ++ ['\x00'])) rest := by
  rw [recordsFrom.eq_def]
  refine (if_neg (by decide)).trans ((if_pos rfl).trans ?_)
  refine (if_pos ⟨rfl, rfl, rfl, rfl⟩).trans ?_
  exact recordsFrom_period name bytes 1 ['\x00'] rest

/-- The next record ends the one before. -/
theorem recordsFrom_record (next : Line) :
    recordsFrom (.items name bytes)
        (.word "01".toList :: .word next :: rest)
      = (recordsFrom (.items next.dropLast []) rest).map
          ((name, bytes) :: ·) := by
  rw [recordsFrom.eq_def]
  exact if_pos rfl

end Reading

/-- The records, by name, and their storage. -/
def records : List Token → Option (List (Line × Line))
  | [] => some []
  | .word level :: .word name :: rest =>
      if level = "01".toList then
        recordsFrom (.items name.dropLast []) rest
      else none
  | _ => none

/-- The first record ends none. -/
theorem records_record (next : Line) (rest : List Token) :
    records (.word "01".toList :: .word next :: rest)
      = recordsFrom (.items next.dropLast []) rest := by
  rw [records]
  exact if_pos rfl

/-- The records the lines declare. -/
def storage (lines : List Line) : Option (List (Line × Line)) :=
  (tokens lines).bind records

end CobolExercises.Precompiler
