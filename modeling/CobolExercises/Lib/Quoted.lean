/-
The words and quotations of a line.

Blanks separate words, and a quotation runs from one quote to the next
(`lex`); a quote that is not closed has no reading. The reader goes through
the line once, with what it has of the current token.
-/
import Mathlib.Data.List.Basic

namespace Lib.Quoted

-- =============================================================== tokens

inductive Token where
  | word (w : List Char)
  | quoted (s : List Char)
deriving DecidableEq

/-- Where the reader is, and what it has read of a token, backwards. -/
inductive Mode where
  | between
  | word (w : List Char)
  | quoted (s : List Char)

def lexFrom : Mode → List Char → Option (List Token)
  | .between, [] => some []
  | .between, c :: cs =>
      if c = ' ' then lexFrom .between cs
      else if c = '"' then lexFrom (.quoted []) cs
      else lexFrom (.word [c]) cs
  | .word w, [] => some [.word w.reverse]
  | .word w, c :: cs =>
      if c = ' ' then (lexFrom .between cs).map (.word w.reverse :: ·)
      else if c = '"' then
        (lexFrom (.quoted []) cs).map (.word w.reverse :: ·)
      else lexFrom (.word (c :: w)) cs
  | .quoted _, [] => none
  | .quoted s, c :: cs =>
      if c = '"' then (lexFrom .between cs).map (.quoted s.reverse :: ·)
      else lexFrom (.quoted (c :: s)) cs

/-- The tokens of a line. -/
def lex (line : List Char) : Option (List Token) := lexFrom .between line

-- ============================================================== reading

/-- The rest of a quotation. -/
theorem lexFrom_quoted {s : List Char} (h : '"' ∉ s) (t cs : List Char) :
    lexFrom (.quoted t) (s ++ '"' :: cs)
      = (lexFrom .between cs).map (.quoted (t.reverse ++ s) :: ·) := by
  induction s generalizing t with
  | nil => rw [List.nil_append, lexFrom, if_pos rfl, List.append_nil]
  | cons c s ih =>
      obtain ⟨hc, hs⟩ := List.ne_and_not_mem_of_not_mem_cons h
      rw [List.cons_append, lexFrom, if_neg (Ne.symm hc), ih hs,
        List.reverse_cons, List.append_assoc, List.singleton_append]

/-- The rest of a word in front of a blank. -/
theorem lexFrom_word {w : List Char} (hblank : ' ' ∉ w) (hquote : '"' ∉ w)
    (t cs : List Char) :
    lexFrom (.word t) (w ++ ' ' :: cs)
      = (lexFrom .between cs).map (.word (t.reverse ++ w) :: ·) := by
  induction w generalizing t with
  | nil => rw [List.nil_append, lexFrom, if_pos rfl, List.append_nil]
  | cons c w ih =>
      obtain ⟨hblank, hw⟩ := List.ne_and_not_mem_of_not_mem_cons hblank
      obtain ⟨hquote, hw'⟩ := List.ne_and_not_mem_of_not_mem_cons hquote
      rw [List.cons_append, lexFrom, if_neg (Ne.symm hblank),
        if_neg (Ne.symm hquote), ih hw hw', List.reverse_cons,
        List.append_assoc, List.singleton_append]

/-- A word at the end of the line. -/
theorem lexFrom_word_end {w : List Char} (hblank : ' ' ∉ w)
    (hquote : '"' ∉ w) (t : List Char) :
    lexFrom (.word t) w = some [.word (t.reverse ++ w)] := by
  induction w generalizing t with
  | nil => rw [lexFrom, List.append_nil]
  | cons c w ih =>
      obtain ⟨hblank, hw⟩ := List.ne_and_not_mem_of_not_mem_cons hblank
      obtain ⟨hquote, hw'⟩ := List.ne_and_not_mem_of_not_mem_cons hquote
      rw [lexFrom, if_neg (Ne.symm hblank), if_neg (Ne.symm hquote),
        ih hw hw', List.reverse_cons, List.append_assoc,
        List.singleton_append]

end Lib.Quoted
