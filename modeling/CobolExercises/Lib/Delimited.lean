/-
Fields cut at their first blank, and fields joined with one blank.

# What the cut loses

`cutAt` keeps a field up to its first blank. It loses no letter exactly
when no letter stands behind a blank (`Gapless`), and then it is the
trimmed field (`cutAt_eq_trim`). So nothing but a count of letters is
needed to tell a join of cut fields from the join of the trimmed ones:
cutting can only lower the count, and every field must keep its own
(`trimEnd_unwords_cutAt_eq_iff`).

# Through a buffer

Two fields joined in a buffer that may be too narrow, and trimmed there,
lose two things more: the last letter of a join one longer than the
buffer, and the blank in front of a second field whose first is blank
(`trim_fit_unwords_cutAt_eq_iff`).
-/
import CobolExercises.Lib.Words

namespace Lib.Delimited

open Lib.Blank Lib.Words

variable {α : Type*} [DecidableEq α]

-- ============================================================== the cut

/-- The field up to its first blank. -/
def cutAt (b : α) (l : List α) : List α := l.takeWhile (· != b)

/-- No letter stands behind a blank. -/
def Gapless (b : α) (l : List α) : Prop :=
  ∀ c ∈ l.dropWhile (· != b), c = b

instance (b : α) (l : List α) : Decidable (Gapless b l) :=
  inferInstanceAs (Decidable (∀ c ∈ l.dropWhile (· != b), c = b))

theorem ne_of_mem_cutAt {b c : α} {l : List α} (hc : c ∈ cutAt b l) :
    c ≠ b := by
  simpa using List.mem_takeWhile_imp hc

theorem length_cutAt_le (b : α) (l : List α) :
    (cutAt b l).length ≤ l.length :=
  (List.takeWhile_prefix _).length_le

theorem letters_of_ne {b : α} {l : List α} (h : ∀ c ∈ l, c ≠ b) :
    letters b l = l.length := by
  simpa [letters, List.countP_eq_length] using h

theorem letters_cutAt (b : α) (l : List α) :
    letters b (cutAt b l) = (cutAt b l).length :=
  letters_of_ne fun _ hc => ne_of_mem_cutAt hc

/-- The letters of a field are those kept and those cut off. -/
theorem letters_eq_length_cutAt_add (b : α) (l : List α) :
    letters b l
      = (cutAt b l).length + letters b (l.dropWhile (· != b)) := by
  conv_lhs => rw [← List.takeWhile_append_dropWhile (p := (· != b)) (l := l)]
  rw [letters_append]
  congr 1
  exact letters_cutAt b l

theorem length_cutAt_le_letters (b : α) (l : List α) :
    (cutAt b l).length ≤ letters b l := by
  have := letters_eq_length_cutAt_add b l
  omega

/-- The cut keeps all letters of a field without a gap, and of no other. -/
theorem length_cutAt_eq_letters_iff (b : α) (l : List α) :
    (cutAt b l).length = letters b l ↔ Gapless b l := by
  rw [Gapless, ← letters_eq_zero_iff]
  have := letters_eq_length_cutAt_add b l
  omega

/-- The cut shortens exactly the fields with a blank. -/
theorem length_cutAt_lt_iff (b : α) (l : List α) :
    (cutAt b l).length < l.length ↔ b ∈ l := by
  constructor
  · intro hlt
    by_contra hb
    have hall : cutAt b l = l := by
      rw [cutAt, List.takeWhile_eq_self_iff]
      intro c hc
      simpa using ne_of_mem_of_not_mem hc hb
    rw [hall] at hlt
    omega
  · intro hb
    apply Nat.lt_of_le_of_ne (length_cutAt_le b l)
    intro hlen
    have hall : cutAt b l = l := (List.takeWhile_prefix _).eq_of_length hlen
    rw [← hall] at hb
    exact ne_of_mem_cutAt hb rfl

/-- Without a gap nothing is kept only of a blank field. -/
theorem cutAt_eq_nil_iff {b : α} {l : List α} (h : Gapless b l) :
    cutAt b l = [] ↔ ∀ c ∈ l, c = b := by
  rw [← List.length_eq_zero_iff, (length_cutAt_eq_letters_iff b l).mpr h,
    letters_eq_zero_iff]

theorem trimEnd_of_ne {b : α} {l : List α} (h : ∀ c ∈ l, c ≠ b) :
    trimEnd b l = l := by
  rw [trimEnd, List.rdropWhile_eq_self_iff]
  intro hl
  simpa using h _ (List.getLast_mem hl)

/-- A field without a gap is trimmed by cutting it. -/
theorem cutAt_eq_trim {b : α} {l : List α} (h : Gapless b l) :
    cutAt b l = trim b l := by
  have hne : ∀ c ∈ cutAt b l, c ≠ b := fun c hc => ne_of_mem_cutAt hc
  have hblank : l.dropWhile (· != b)
      = List.replicate (l.dropWhile (· != b)).length b :=
    List.eq_replicate_of_mem h
  have hsplit : l = cutAt b l
      ++ List.replicate (l.dropWhile (· != b)).length b := by
    rw [← hblank]
    exact List.takeWhile_append_dropWhile.symm
  generalize (l.dropWhile (· != b)).length = n at hsplit
  generalize cutAt b l = u at hne hsplit ⊢
  subst hsplit
  rw [trim]
  cases u with
  | nil => simp
  | cons c u =>
      have hc : c ≠ b := hne c List.mem_cons_self
      rw [List.cons_append, List.dropWhile_cons_of_neg (by simpa using hc),
        ← List.cons_append, trimEnd_append_blanks, trimEnd_of_ne hne]

theorem letters_trim (b : α) (l : List α) :
    letters b (trim b l) = letters b l := by
  rw [trim, letters_trimEnd]
  induction l with
  | nil => rfl
  | cons c l ih =>
      by_cases hc : c = b
      · subst hc
        rw [List.dropWhile_cons_of_pos (by simp), ih, letters_cons,
          if_neg (by simp), Nat.add_zero]
      · rw [List.dropWhile_cons_of_neg (by simpa using hc)]

-- ============================================================= the join

/-- Joining adds blanks only. -/
theorem letters_unwords (b : α) (ls : List (List α)) :
    letters b (unwords b ls) = letters b ls.flatten := by
  cases ls with
  | nil => rfl
  | cons l ls =>
      rw [unwords_cons, List.flatten_cons, letters_append, letters_append]
      congr 1
      induction ls with
      | nil => rfl
      | cons m ls ih =>
          rw [List.flatMap_cons, letters_append, letters_cons, ih,
            if_neg (by simp), List.flatten_cons, letters_append,
            Nat.add_zero]

theorem letters_flatten_trim (b : α) (ls : List (List α)) :
    letters b (ls.map (trim b)).flatten = letters b ls.flatten := by
  induction ls with
  | nil => rfl
  | cons l ls ih =>
      rw [List.map_cons, List.flatten_cons, List.flatten_cons,
        letters_append, letters_append, letters_trim, ih]

/-- No field gains letters by the cut, and all keep theirs exactly when
none has a gap. -/
theorem letters_flatten_cutAt (b : α) (ls : List (List α)) :
    letters b (ls.map (cutAt b)).flatten ≤ letters b ls.flatten
      ∧ (letters b (ls.map (cutAt b)).flatten = letters b ls.flatten
        ↔ ∀ l ∈ ls, Gapless b l) := by
  induction ls with
  | nil => simp
  | cons l ls ih =>
      obtain ⟨hle, hiff⟩ := ih
      have hhead := length_cutAt_le_letters b l
      rw [List.map_cons, List.flatten_cons, List.flatten_cons,
        letters_append, letters_append, letters_cutAt,
        List.forall_mem_cons, ← hiff, ← length_cutAt_eq_letters_iff]
      omega

/-- Fields cut and joined are the trimmed fields joined exactly when none
has a gap. -/
theorem trimEnd_unwords_cutAt_eq_iff (b : α) (ls : List (List α)) :
    trimEnd b (unwords b (ls.map (cutAt b)))
        = trimEnd b (unwords b (ls.map (trim b)))
      ↔ ∀ l ∈ ls, Gapless b l := by
  constructor
  · intro h
    have hcount := congrArg (letters b) h
    rw [letters_trimEnd, letters_trimEnd, letters_unwords, letters_unwords,
      letters_flatten_trim] at hcount
    obtain ⟨-, hiff⟩ := letters_flatten_cutAt b ls
    exact hiff.mp hcount
  · intro h
    have hmap : ls.map (cutAt b) = ls.map (trim b) :=
      List.map_congr_left fun l hl => cutAt_eq_trim (h l hl)
    rw [hmap]

-- ===================================================== through a buffer

omit [DecidableEq α] in
theorem unwords_pair (b : α) (u v : List α) :
    unwords b [u, v] = u ++ b :: v := by
  simp [unwords_cons]

/-- What trimming leaves of two words: the blank between them goes when
the first is empty. -/
theorem trim_pair {b : α} {u v : List α} (hu : ∀ c ∈ u, c ≠ b)
    (hv : ∀ c ∈ v, c ≠ b) :
    trim b (u ++ b :: v) = if u = [] then v else trimEnd b (u ++ b :: v) := by
  cases u with
  | nil =>
      have hhead : v.dropWhile (· == b) = v := by
        cases v with
        | nil => rfl
        | cons c v =>
            have hc : c ≠ b := hv c List.mem_cons_self
            rw [List.dropWhile_cons_of_neg (by simpa using hc)]
      rw [if_pos rfl, trim, List.nil_append,
        List.dropWhile_cons_of_pos (by simp), hhead, trimEnd_of_ne hv]
  | cons c u =>
      have hc : c ≠ b := hu c List.mem_cons_self
      rw [if_neg (List.cons_ne_nil c u), trim, List.cons_append,
        List.dropWhile_cons_of_neg (by simpa using hc)]

/-- A buffer that is one too narrow for two words loses a letter. -/
theorem letters_fit_pair_lt {b : α} {n : Nat} {u v : List α}
    (hlt : u.length < n) (h : u.length + v.length = n) :
    letters b (fit b n (u ++ b :: v)) < n := by
  have htake : (u ++ b :: v).take n
      = u ++ b :: v.take (n - u.length - 1) := by
    rw [List.take_append, List.take_of_length_le hlt.le,
      show n - u.length = n - u.length - 1 + 1 by omega,
      List.take_succ_cons, Nat.add_sub_cancel]
  have hlen : n - (u ++ b :: v).length = 0 := by
    rw [List.length_append, List.length_cons]
    omega
  have hu : letters b u ≤ u.length := List.countP_le_length
  have hv : letters b (v.take (n - u.length - 1)) ≤ n - u.length - 1 :=
    List.countP_le_length.trans (List.length_take_le ..)
  rw [fit, htake, hlen, List.replicate_zero, List.append_nil,
    letters_append, letters_cons, if_neg (by simp)]
  omega

theorem letters_fit_le (b : α) (n : Nat) (l : List α) :
    letters b (fit b n l) ≤ letters b l := by
  have hblank : letters b (List.replicate (n - l.length) b) = 0 := by
    simp [letters_eq_zero_iff]
  rw [fit, letters_append, hblank, Nat.add_zero]
  exact (List.take_sublist n l).countP_le

/-- A buffer with all letters of two fields has lost none of them: not by
a cut, and not for want of room. -/
theorem gapless_of_letters_fit {b : α} {n : Nat} {x y : List α}
    (hx : x.length < n) (hxy : x.length + y.length ≤ n)
    (h : letters b (fit b n (unwords b [cutAt b x, cutAt b y]))
      = letters b x + letters b y) :
    (Gapless b x ∧ Gapless b y)
      ∧ (cutAt b x).length + (cutAt b y).length < n := by
  have hxle := length_cutAt_le b x
  have hyle := length_cutAt_le b y
  have hxcut := length_cutAt_le_letters b x
  have hycut := length_cutAt_le_letters b y
  have hle := letters_fit_le b n (unwords b [cutAt b x, cutAt b y])
  rw [letters_unwords] at hle
  simp only [List.flatten_cons, List.flatten_nil, List.append_nil,
    letters_append, letters_cutAt] at hle
  refine ⟨⟨?_, ?_⟩, ?_⟩
  · apply (length_cutAt_eq_letters_iff b x).mp
    omega
  · apply (length_cutAt_eq_letters_iff b y).mp
    omega
  · by_contra hover
    have hlost := letters_fit_pair_lt (b := b) (u := cutAt b x)
      (v := cutAt b y) (n := n) (by omega) (by omega)
    rw [← unwords_pair] at hlost
    omega

/-- Two fields cut, joined in a buffer and trimmed there are the trimmed
fields joined exactly when neither has a gap, the join fits, and the
second is blank if the first is. -/
theorem trim_fit_unwords_cutAt_eq_iff {b : α} {n : Nat} {x y : List α}
    (hx : x.length < n) (hxy : x.length + y.length ≤ n) :
    trim b (fit b n (unwords b [cutAt b x, cutAt b y]))
        = trimEnd b (unwords b [trim b x, trim b y])
      ↔ (Gapless b x ∧ Gapless b y)
        ∧ (cutAt b x).length + (cutAt b y).length < n
        ∧ (cutAt b x = [] → cutAt b y = []) := by
  have hu : ∀ c ∈ cutAt b x, c ≠ b := fun c hc => ne_of_mem_cutAt hc
  have hv : ∀ c ∈ cutAt b y, c ≠ b := fun c hc => ne_of_mem_cutAt hc
  have hfits : (cutAt b x).length + (cutAt b y).length < n →
      trim b (fit b n (unwords b [cutAt b x, cutAt b y]))
        = if cutAt b x = [] then cutAt b y
          else trimEnd b (unwords b [cutAt b x, cutAt b y]) := by
    intro hlt
    rw [unwords_pair, trim_fit, trim_pair hu hv]
    rw [List.length_append, List.length_cons]
    omega
  constructor
  · intro h
    have hcount := congrArg (letters b) h
    rw [letters_trim, letters_trimEnd, letters_unwords] at hcount
    simp only [List.flatten_cons, List.flatten_nil, List.append_nil,
      letters_append, letters_trim] at hcount
    obtain ⟨⟨hgapx, hgapy⟩, hlt⟩ := gapless_of_letters_fit hx hxy hcount
    refine ⟨⟨hgapx, hgapy⟩, hlt, fun hnil => ?_⟩
    -- the separator in front stays in the join, and goes in the buffer
    rw [hfits hlt, if_pos hnil, ← cutAt_eq_trim hgapx,
      ← cutAt_eq_trim hgapy, hnil, unwords_pair, List.nil_append,
      trimEnd_cons, trimEnd_of_ne hv] at h
    split at h
    case isTrue => exact h
    case isFalse =>
        have := congrArg List.length h
        simp at this
  · intro h
    obtain ⟨⟨hgapx, hgapy⟩, hlt, hblank⟩ := h
    rw [hfits hlt, ← cutAt_eq_trim hgapx, ← cutAt_eq_trim hgapy]
    split
    case isTrue hnil =>
        rw [hnil, hblank hnil, unwords_pair, List.nil_append, trimEnd_cons]
        simp
    case isFalse => rfl

end Lib.Delimited
