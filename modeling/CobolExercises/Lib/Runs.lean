/-
Runs of blanks, and the text that keeps one blank of each.

# Two definitions of one text

`collapse b l` says what is wanted: drop the leading blanks, cut the
rest into its runs, and replace every run of blanks by one blank. It
never looks at a neighbouring character. `squeeze b b l` (Words.lean) is
the one-pass scan. They are the same list (`squeeze_eq_collapse`): the
scan is a fold over the runs (`squeeze_append`), which leaves a run of
letters alone and shortens a run of blanks behind a letter to one.
-/
import CobolExercises.Lib.Words
import Mathlib.Data.List.SplitBy

namespace Lib.Runs

open Lib.Blank Lib.Words

variable {α : Type*} [DecidableEq α]

-- ================================================================= runs

/-- Both blank or both letters. -/
def sameKind (b c d : α) : Bool := (c == b) == (d == b)

/-- The maximal runs of blanks and of letters. -/
def runs (b : α) (l : List α) : List (List α) := l.splitBy (sameKind b)

/-- The leading blanks removed, every other run of blanks replaced by one
blank. -/
def collapse (b : α) (l : List α) : List α :=
  (runs b (l.dropWhile (· == b))).flatMap
    fun run => if b ∈ run then [b] else run

/-- A run is of one kind: its members are blank if its first one is. -/
theorem eq_blank_iff_of_isChain {b c : α} {l : List α}
    (h : (c :: l).IsChain fun x y => sameKind b x y) :
    ∀ d ∈ c :: l, (d = b ↔ c = b) := by
  induction l generalizing c with
  | nil =>
      intro d hd
      rw [List.mem_singleton.mp hd]
  | cons x l ih =>
      obtain ⟨hcx, htail⟩ := List.isChain_cons_cons.mp h
      have hkind : c = b ↔ x = b := by
        simpa [sameKind] using hcx
      intro d hd
      rcases List.mem_cons.mp hd with rfl | hd
      · exact Iff.rfl
      · rw [ih htail d hd, hkind]

-- ============================================================== the scan

/-- The scan leaves letters alone. -/
theorem squeeze_letters {b : α} (p : α) {l : List α}
    (h : ∀ c ∈ l, c ≠ b) : squeeze b p l = l := by
  induction l generalizing p with
  | nil => rfl
  | cons c l ih =>
      obtain ⟨hc, hl⟩ := List.forall_mem_cons.mp h
      rw [squeeze_cons_of_ne p l hc, ih c hl]

/-- Behind a blank, the scan drops blanks. -/
theorem squeeze_blanks {b : α} {l : List α} (h : ∀ c ∈ l, c = b) :
    squeeze b b l = [] := by
  induction l with
  | nil => rfl
  | cons c l ih =>
      obtain ⟨rfl, hl⟩ := List.forall_mem_cons.mp h
      rw [squeeze_cons_blank, ih hl]

theorem squeeze_dropWhile (b : α) (l : List α) :
    squeeze b b (l.dropWhile (· == b)) = squeeze b b l := by
  induction l with
  | nil => rfl
  | cons c l ih =>
      rw [List.dropWhile_cons]
      split
      case isTrue hc =>
          obtain rfl : c = b := by simpa using hc
          rw [squeeze_cons_blank, ih]
      case isFalse => rfl

/-- One run of the text: a run of blanks does not come behind a blank. -/
theorem squeeze_run {b p c : α} {l : List α}
    (hrun : (c :: l).IsChain fun x y => sameKind b x y)
    (hp : p = b → c ≠ b) :
    squeeze b p (c :: l) = if b ∈ c :: l then [b] else c :: l := by
  have hkind := eq_blank_iff_of_isChain hrun
  by_cases hc : c = b
  · subst hc
    have hblank : ∀ d ∈ l, d = c := fun d hd =>
      (hkind d (List.mem_cons_of_mem c hd)).mpr rfl
    rw [if_pos List.mem_cons_self,
      squeeze_cons_blank_of_ne l fun h => hp h rfl, squeeze_blanks hblank]
  · have hletters : ∀ d ∈ c :: l, d ≠ b := fun d hd h =>
      hc ((hkind d hd).mp h)
    rw [if_neg fun hb => hletters b hb rfl, squeeze_letters p hletters]

/-- The scan of a text, run by run; no run of blanks follows a blank. -/
theorem squeeze_flatten {b p : α} {rs : List (List α)} (hnil : [] ∉ rs)
    (hrun : ∀ r ∈ rs, r.IsChain fun x y => sameKind b x y)
    (hnext : rs.IsChain fun r r' =>
      ∃ hr hr', sameKind b (r.getLast hr) (r'.head hr') = false)
    (hp : p = b → rs.flatten.head? ≠ some b) :
    squeeze b p rs.flatten
      = rs.flatMap fun r => if b ∈ r then [b] else r := by
  induction rs generalizing p with
  | nil => rfl
  | cons r rs ih =>
      obtain ⟨hr, hrs⟩ := List.forall_mem_cons.mp hrun
      cases r with
      | nil => exact absurd List.mem_cons_self hnil
      | cons c l =>
          have hhead : p = b → c ≠ b := by
            intro h heq
            exact hp h (by simp [heq])
          rw [List.flatten_cons, squeeze_append, squeeze_run hr hhead,
            List.flatMap_cons]
          congr 1
          apply ih (fun h => hnil (List.mem_cons_of_mem _ h)) hrs
            hnext.of_cons
          intro hlast hblank
          cases rs with
          | nil => cases hblank
          | cons r' rs =>
              -- the kinds of neighbouring runs differ
              obtain ⟨⟨hne, hne', hdiff⟩, -⟩ :=
                List.isChain_cons_cons.mp hnext
              cases r' with
              | nil => exact hne' rfl
              | cons d l' =>
                  have hd : d = b := by simpa using hblank
                  rw [List.getLastD_cons] at hlast
                  have hend : (c :: l).getLast hne = b := by
                    rw [List.getLast_eq_getLastD, hlast]
                  simp [sameKind, hend, hd] at hdiff

/-- The scan from a blank on is the text with its runs of blanks
collapsed. -/
theorem squeeze_eq_collapse (b : α) (l : List α) :
    squeeze b b l = collapse b l := by
  have hhead : (l.dropWhile (· == b)).head? ≠ some b := by
    intro h
    have := List.head?_dropWhile_not (· == b) l
    rw [h] at this
    simp at this
  rw [← squeeze_dropWhile, collapse, runs,
    ← squeeze_flatten (p := b) (List.nil_notMem_splitBy _ _)
      (fun r hr => List.isChain_of_mem_splitBy hr)
      (List.isChain_getLast_head_splitBy _ _),
    List.flatten_splitBy]
  rwa [List.flatten_splitBy, imp_iff_right rfl]

end Lib.Runs
