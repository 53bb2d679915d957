/-
The text of a prepared statement: host variables become the parameters
`$1`, `$2`, and so on (`get_str_replace_hostvalue`).

A host variable starts at a colon and ends in front of the next comma,
closing parenthesis or space, so every text is a template with host
variables as its holes, and what is prepared is the template filled with
the parameters (`getStrReplaceHostvalue_source`). Nothing else in the text
counts: quotes do not protect a colon, and a second colon is part of the
name.
-/
import CobolExercises.Lib.Template
import Mathlib.Data.Nat.Digits.Defs

namespace CobolExercises.Runtime

open Lib

/-- What ends a host variable. -/
def endsHostvalue (c : Char) : Bool := c == ',' || c == ')' || c == ' '

/-- `"$%d"`. -/
def parameterText (n : Nat) : List Char := '$' :: Nat.toDigits 10 n

/-- The loop of `get_str_replace_hostvalue` at `now`: `tok` is the text
from `start` on, `n` the parameters so far. -/
def replaceLoop (hoststat : Bool) (tok : List Char) (n : Nat) :
    List Char → List Char × Nat
  | [] =>
      if tok = [] then ([], n)
      else if hoststat then (parameterText (n + 1), n + 1)
      else (tok, n)
  | c :: now =>
      if hoststat then
        if endsHostvalue c then
          let rest := replaceLoop false [c] (n + 1) now
          (parameterText (n + 1) ++ rest.1, rest.2)
        else replaceLoop true (tok ++ [c]) n now
      else if c = ':' then
        let rest := replaceLoop true [c] n now
        (tok ++ rest.1, rest.2)
      else replaceLoop false (tok ++ [c]) n now

/-- `get_str_replace_hostvalue`: the text, and `*nParams`. -/
def getStrReplaceHostvalue (target : List Char) : List Char × Nat :=
  replaceLoop false [] 0 target

-- ============================================================== the loop

/-- Up to the next host variable the text is collected. -/
theorem replaceLoop_text {l : List Char} (hl : ':' ∉ l) (tok : List Char)
    (n : Nat) (now : List Char) :
    replaceLoop false tok n (l ++ now) = replaceLoop false (tok ++ l) n now := by
  induction l generalizing tok with
  | nil => rw [List.nil_append, List.append_nil]
  | cons c l ih =>
      have hc : c ≠ ':' := fun h => hl (h ▸ List.mem_cons_self)
      have hrest : ':' ∉ l := fun h => hl (List.mem_cons_of_mem c h)
      rw [List.cons_append, replaceLoop, if_neg Bool.false_ne_true,
        if_neg hc, ih hrest, List.append_assoc, List.singleton_append]

/-- The name of a host variable is collected to be dropped. -/
theorem replaceLoop_name {l : List Char}
    (hl : ∀ c ∈ l, endsHostvalue c = false) (tok : List Char) (n : Nat)
    (now : List Char) :
    replaceLoop true tok n (l ++ now) = replaceLoop true (tok ++ l) n now := by
  induction l generalizing tok with
  | nil => rw [List.nil_append, List.append_nil]
  | cons c l ih =>
      have hc : ¬endsHostvalue c = true := by
        rw [hl c List.mem_cons_self]
        exact Bool.false_ne_true
      rw [List.cons_append, replaceLoop, if_pos rfl, if_neg hc,
        ih fun d hd => hl d (List.mem_cons_of_mem c hd), List.append_assoc,
        List.singleton_append]

/-- The text collected when the loop ends. -/
theorem replaceLoop_nil (tok : List Char) (n : Nat) :
    replaceLoop false tok n [] = (tok, n) := by
  rw [replaceLoop, if_neg Bool.false_ne_true]
  split
  case isTrue h => rw [h]
  case isFalse => rfl

/-- From the colon of a host variable on. -/
theorem replaceLoop_holes {holes : List (List Char × List Char)}
    (hwf : Template.WfHoles ':' endsHostvalue holes) (tok : List Char)
    (n : Nat) :
    replaceLoop false tok n (Template.sourceOf ':' holes)
      = (tok ++ Template.fillFrom parameterText (n + 1) holes,
        n + holes.length) := by
  induction holes generalizing tok n with
  | nil =>
      rw [Template.sourceOf, replaceLoop_nil, Template.fillFrom,
        List.append_nil]
      rfl
  | cons hole holes ih =>
      obtain ⟨name, tail⟩ := hole
      obtain ⟨hname, htail, hstop, hrest⟩ := hwf
      dsimp only at hname htail hstop
      rw [Template.sourceOf, Template.fillFrom]
      dsimp only
      rw [replaceLoop, if_neg Bool.false_ne_true, if_pos rfl,
        replaceLoop_name hname]
      cases tail with
      | nil =>
          -- the text ends with the host variable
          dsimp only at hstop
          subst hstop
          simp [Template.sourceOf, Template.fillFrom, replaceLoop]
      | cons c tail =>
          have hcolon : ':' ∉ tail := fun h => htail (List.mem_cons_of_mem c h)
          rw [List.cons_append (a := c), replaceLoop, if_pos rfl, if_pos hstop,
            replaceLoop_text hcolon, ih hrest, List.length_cons]
          simp only [List.cons_append, List.nil_append, Prod.mk.injEq,
            true_and]
          omega

/-- Every statement is, in one way only, a text with host variables as its
holes; what is prepared is that text with `$1`, `$2`, ... in their place,
and `nParams` counts them. -/
theorem getStrReplaceHostvalue_source (target : List Char) :
    ∃ t : Template Char, t.Wf ':' endsHostvalue ∧ t.source ':' = target
      ∧ (∀ t' : Template Char, t'.Wf ':' endsHostvalue →
          t'.source ':' = target → t' = t)
      ∧ getStrReplaceHostvalue target
        = (t.fill parameterText, t.holes.length) := by
  have hcolon : endsHostvalue ':' = false := rfl
  obtain ⟨t, hwf, hsource⟩ := Template.exists_template hcolon target
  refine ⟨t, hwf, hsource, ?_, ?_⟩
  · intro t' hwf' hsource'
    exact Template.eq_of_source_eq hwf' hwf (hsource'.trans hsource.symm)
  · rw [← hsource, getStrReplaceHostvalue, Template.source,
      replaceLoop_text hwf.1, replaceLoop_holes hwf.2, List.nil_append,
      Nat.zero_add, Nat.zero_add, Template.fill]

example : getStrReplaceHostvalue "WHERE A = :A AND B IN (:B,:C)".toList
    = ("WHERE A = $1 AND B IN ($2,$3)".toList, 3) := by decide

end CobolExercises.Runtime
