/-
Words between blanks, and the scan that squeezes runs of blanks.

# The scan

`squeeze b p l` keeps a character unless it and the one before it are
both blank; `p` is the character before the first. One pass over the
text, one character of memory: what a cleaning loop computes.

# What it means

Up to trailing blanks, the squeezed text is the words of the text with
one blank between them (`trimEnd_squeeze`). It loses no character but
blanks (`letters_squeeze`), and it can be extended at the right end
(`squeeze_concat`), which is the step of the loop.
-/
import CobolExercises.Lib.Blank

namespace Lib.Words

open Lib.Blank

variable {α : Type*} [DecidableEq α]

-- ======================================================= the operations

/-- The maximal runs of characters other than the blank. -/
def words (b : α) (l : List α) : List (List α) :=
  (l.splitOnP (· == b)).filter (· ≠ [])

/-- The words with one blank between them. -/
def unwords (b : α) (ws : List (List α)) : List α := List.intercalate [b] ws

/-- The text less every blank that follows a blank; `p` comes before it. -/
def squeeze (b : α) : α → List α → List α
  | _, [] => []
  | p, c :: l =>
      if c ≠ b ∨ p ≠ b then c :: squeeze b c l else squeeze b c l

-- ================================================================ words

@[simp] theorem words_nil (b : α) : words b [] = [] := rfl

/-- A blank ends a word. -/
theorem words_append_cons (b : α) (l m : List α) :
    words b (l ++ b :: m) = words b l ++ words b m := by
  rw [words, List.splitOnP_append_cons l m (by simp), List.filter_append,
    words, words]

/-- A text without a blank is one word, if it is not empty. -/
theorem words_of_not_mem {b : α} {l : List α} (h : b ∉ l) :
    words b l = if l = [] then [] else [l] := by
  have hsingle : l.splitOnP (· == b) = [l] := by
    refine List.splitOnP_eq_singleton fun c hc => beq_eq_false_iff_ne.mpr ?_
    rintro rfl
    exact h hc
  rw [words, hsingle]
  split
  case isTrue hnil => rw [hnil]; rfl
  case isFalse hne => simp [hne]

theorem words_concat_blank (b : α) (l : List α) :
    words b (l ++ [b]) = words b l := by
  rw [words_append_cons, words_nil, List.append_nil]

/-- Padding a text adds no word. -/
theorem words_fit {b : α} {n : Nat} {l : List α} (h : l.length ≤ n) :
    words b (fit b n l) = words b l := by
  rw [fit, List.take_of_length_le h]
  induction n - l.length with
  | zero => rw [List.replicate_zero, List.append_nil]
  | succ k ih =>
      rw [List.replicate_succ', ← List.append_assoc, words_concat_blank, ih]

theorem ne_nil_of_mem_words {b : α} {l w : List α} (h : w ∈ words b l) :
    w ≠ [] := by
  simpa using (List.mem_filter.mp h).2

omit [DecidableEq α] in
/-- The words after the first, each behind its blank. -/
theorem unwords_cons (b : α) (w : List α) (ws : List (List α)) :
    unwords b (w :: ws) = w ++ ws.flatMap (b :: ·) := by
  induction ws generalizing w with
  | nil => simp [unwords]
  | cons v vs ih =>
      have htail : unwords b (v :: vs) = v ++ vs.flatMap (b :: ·) := ih v
      rw [unwords] at htail ⊢
      rw [List.intercalate_cons_cons, htail, List.flatMap_cons]
      simp

/-- Words are joined to nothing only when there are none. -/
theorem unwords_words_eq_nil_iff (b : α) (l : List α) :
    unwords b (words b l) = [] ↔ words b l = [] := by
  constructor
  · intro h
    cases hws : words b l with
    | nil => rfl
    | cons w ws =>
        have hw : w ≠ [] := by
          apply ne_nil_of_mem_words (b := b) (l := l)
          rw [hws]
          exact List.mem_cons_self
        rw [hws, unwords_cons] at h
        exact absurd (List.append_eq_nil_iff.mp h).1 hw
  · intro h
    rw [h]
    rfl

/-- Every word behind its blank: nothing, or a blank and the words. -/
theorem flatMap_words (b : α) (l : List α) :
    (words b l).flatMap (b :: ·)
      = if unwords b (words b l) = [] then [] else b :: unwords b (words b l)
      := by
  cases hws : words b l with
  | nil => rfl
  | cons w ws =>
      have hne : unwords b (words b l) ≠ [] := by
        rw [Ne, unwords_words_eq_nil_iff, hws]
        exact List.cons_ne_nil w ws
      rw [hws] at hne
      rw [if_neg hne, unwords_cons, List.flatMap_cons, List.cons_append]

-- ============================================================= the scan

@[simp] theorem squeeze_nil (b p : α) : squeeze b p [] = [] := rfl

theorem squeeze_cons_blank (b : α) (l : List α) :
    squeeze b b (b :: l) = squeeze b b l := by
  rw [squeeze, if_neg (by simp)]

theorem squeeze_cons_of_ne {b c : α} (p : α) (l : List α) (hc : c ≠ b) :
    squeeze b p (c :: l) = c :: squeeze b c l := by
  rw [squeeze, if_pos (.inl hc)]

/-- The first blank behind a word is kept. -/
theorem squeeze_cons_blank_of_ne {b p : α} (l : List α) (hp : p ≠ b) :
    squeeze b p (b :: l) = b :: squeeze b b l := by
  rw [squeeze, if_pos (.inr hp)]

/-- The scan of a text goes on behind it. -/
theorem squeeze_append (b p : α) (l m : List α) :
    squeeze b p (l ++ m)
      = squeeze b p l ++ squeeze b (l.getLastD p) m := by
  induction l generalizing p with
  | nil => rfl
  | cons c l ih =>
      rw [List.cons_append, squeeze, squeeze, ih, List.getLastD_cons]
      split <;> rfl

/-- One more character at the right end. -/
theorem squeeze_concat (b p : α) (l : List α) (c : α) :
    squeeze b p (l ++ [c])
      = squeeze b p l ++ if c ≠ b ∨ l.getLastD p ≠ b then [c] else [] := by
  rw [squeeze_append, squeeze]
  rfl

/-- A squeezed text has nothing left to squeeze. -/
theorem squeeze_squeeze (b p : α) (l : List α) :
    squeeze b p (squeeze b p l) = squeeze b p l := by
  induction l generalizing p with
  | nil => rfl
  | cons c l ih =>
      rw [squeeze]
      split
      case isTrue hkeep => rw [squeeze, if_pos hkeep, ih]
      case isFalse hdrop =>
          obtain ⟨hc, hp⟩ : c = b ∧ p = b := by
            simpa [not_or] using hdrop
          rw [hc, hp, ih]

theorem length_squeeze_le (b p : α) (l : List α) :
    (squeeze b p l).length ≤ l.length := by
  induction l generalizing p with
  | nil => simp
  | cons c l ih =>
      have := ih c
      rw [squeeze]
      split <;> simp <;> omega

-- ================================================== the scan and the words

/-- From a blank on, the scan joins the words; behind a word, it first
finishes that word. -/
private theorem trimEnd_squeeze_segments (b : α) (l : List α) :
    ∀ w rest, l.splitOnP (· == b) = w :: rest →
      trimEnd b (squeeze b b l) = unwords b ((w :: rest).filter (· ≠ []))
      ∧ ∀ p, p ≠ b → trimEnd b (squeeze b p l)
        = w ++ (rest.filter (· ≠ [])).flatMap (b :: ·) := by
  induction l with
  | nil =>
      intro w rest hnil
      cases hnil
      simp [unwords]
  | cons c l ih =>
      intro w rest hseg
      obtain ⟨v, vs, hv⟩ :=
        List.exists_cons_of_ne_nil (List.splitOnP_ne_nil (· == b) l)
      obtain ⟨ihblank, ihword⟩ := ih v vs hv
      rw [List.splitOnP_cons_eq_if_modifyHead, hv] at hseg
      by_cases hc : c = b
      · subst hc
        rw [if_pos (by simp)] at hseg
        obtain ⟨rfl, rfl⟩ := List.cons.inj hseg
        have hwords : (v :: vs).filter (· ≠ []) = words c l := by
          rw [words, hv]
        rw [hwords] at ihblank ⊢
        refine ⟨?_, fun p hp => ?_⟩
        · rw [squeeze_cons_blank, ihblank, List.filter_cons_of_neg (by simp),
            hwords]
        · rw [squeeze_cons_blank_of_ne l hp, trimEnd_cons, ihblank,
            flatMap_words]
          simp
      · rw [if_neg (by simpa using hc)] at hseg
        obtain ⟨rfl, rfl⟩ := List.cons.inj hseg
        have hword : ∀ p, trimEnd b (squeeze b p (c :: l))
            = c :: (v ++ (vs.filter (· ≠ [])).flatMap (b :: ·)) := by
          intro p
          rw [squeeze_cons_of_ne p l hc, trimEnd_cons,
            if_neg (fun h => hc h.1), ihword c hc]
        refine ⟨?_, fun p _ => hword p⟩
        rw [hword, List.filter_cons_of_pos (by simp), unwords_cons]
        rfl

/-- From a blank on, the squeezed text is the words with one blank
between them, up to trailing blanks. -/
theorem trimEnd_squeeze (b : α) (l : List α) :
    trimEnd b (squeeze b b l) = unwords b (words b l) := by
  obtain ⟨w, rest, hw⟩ :=
    List.exists_cons_of_ne_nil (List.splitOnP_ne_nil (· == b) l)
  rw [(trimEnd_squeeze_segments b l w rest hw).1, words, hw]

/-- A padded squeezed text is not changed by squeezing and padding it
again. -/
theorem fit_squeeze_fit_squeeze {b : α} {n : Nat} {l : List α}
    (h : l.length ≤ n) :
    fit b n (squeeze b b (fit b n (squeeze b b l)))
      = fit b n (squeeze b b l) := by
  have hlen : (squeeze b b l).length ≤ n :=
    (length_squeeze_le b b l).trans h
  have hagain : (squeeze b b (fit b n (squeeze b b l))).length ≤ n :=
    (length_squeeze_le ..).trans (by simp)
  rw [fit_eq_fit_iff hagain hlen, trimEnd_squeeze, words_fit hlen,
    ← trimEnd_squeeze, squeeze_squeeze]

-- ============================================================= no loss

/-- How many characters of a text are not blank. -/
def letters (b : α) (l : List α) : Nat := l.countP (· ≠ b)

theorem letters_cons (b c : α) (l : List α) :
    letters b (c :: l) = letters b l + if c ≠ b then 1 else 0 := by
  simp [letters, List.countP_cons]

theorem letters_append (b : α) (l m : List α) :
    letters b (l ++ m) = letters b l + letters b m :=
  List.countP_append

theorem letters_eq_zero_iff (b : α) (l : List α) :
    letters b l = 0 ↔ ∀ c ∈ l, c = b := by
  simp [letters, List.countP_eq_zero]

/-- The scan drops blanks only. -/
theorem letters_squeeze (b p : α) (l : List α) :
    letters b (squeeze b p l) = letters b l := by
  induction l generalizing p with
  | nil => rfl
  | cons c l ih =>
      by_cases hc : c = b
      · subst hc
        rw [squeeze]
        split <;> simp [letters_cons, ih]
      · rw [squeeze_cons_of_ne p l hc, letters_cons, letters_cons, ih]

theorem letters_trimEnd (b : α) (l : List α) :
    letters b (trimEnd b l) = letters b l := by
  obtain ⟨n, hn⟩ := exists_trimEnd_append b l
  have hblank : letters b (List.replicate n b) = 0 := by
    simp [letters_eq_zero_iff]
  conv_rhs => rw [hn, letters_append, hblank, Nat.add_zero]

theorem trimEnd_eq_nil_iff_letters (b : α) (l : List α) :
    trimEnd b l = [] ↔ letters b l = 0 := by
  rw [trimEnd_eq_nil_iff, letters_eq_zero_iff]

theorem words_eq_nil_iff (b : α) (l : List α) :
    words b l = [] ↔ letters b l = 0 := by
  rw [← unwords_words_eq_nil_iff, ← trimEnd_squeeze,
    trimEnd_eq_nil_iff_letters, letters_squeeze]

-- ======================================================== the first letter

/-- From a blank on, the scan first keeps a letter. -/
theorem head_squeeze_ne {b c : α} {l m : List α}
    (h : squeeze b b l = c :: m) : c ≠ b := by
  induction l with
  | nil => cases h
  | cons d l ih =>
      by_cases hd : d = b
      · subst hd
        rw [squeeze_cons_blank] at h
        exact ih h
      · rw [squeeze_cons_of_ne b l hd] at h
        obtain ⟨rfl, -⟩ := List.cons.inj h
        exact hd

/-- Without the first character kept, one letter is gone. -/
theorem letters_drop_one_squeeze (b : α) (l : List α) :
    letters b ((squeeze b b l).drop 1) = letters b l - 1 := by
  rw [← letters_squeeze b b l]
  cases h : squeeze b b l with
  | nil => rfl
  | cons c m =>
      rw [letters_cons, if_pos (head_squeeze_ne h)]
      rfl

end Lib.Words
