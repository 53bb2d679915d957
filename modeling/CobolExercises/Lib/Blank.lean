/-
Fixed-width text over an alphabet with a blank: padding, trimming, and
writing one text over another.

# Reading past the end

A text and the same text with blanks appended are the same to a reader
who takes a missing position for a blank. `getD · b` is that reader,
and every operation here has one equation for it (`getD_fit`,
`getD_overlay`, `getD_trimEnd`). Two texts trim to the same list
exactly when that reader cannot tell them apart (`trimEnd_eq_iff`), so
comparisons of padded, trimmed and overwritten texts all reduce to
positions.
-/
import Mathlib.Data.List.DropRight
import Mathlib.Data.List.GetD

namespace Lib.Blank

variable {α : Type*}

-- ======================================================= the operations

/-- Pad with blanks on the right, or cut, to exactly `n` positions. -/
def fit (b : α) (n : Nat) (l : List α) : List α :=
  l.take n ++ List.replicate (n - l.length) b

/-- Write `src` over the front of `buf`: what does not fit is lost, what
is not reached stays. -/
def overlay (buf src : List α) : List α :=
  src.take buf.length ++ buf.drop src.length

/-- Drop the trailing blanks. -/
def trimEnd [DecidableEq α] (b : α) (l : List α) : List α :=
  l.rdropWhile (· == b)

/-- Drop the blanks at both ends. -/
def trim [DecidableEq α] (b : α) (l : List α) : List α :=
  trimEnd b (l.dropWhile (· == b))

@[simp] theorem length_fit (b : α) (n : Nat) (l : List α) :
    (fit b n l).length = n := by
  rw [fit, List.length_append, List.length_take, List.length_replicate]
  omega

@[simp] theorem length_overlay (buf src : List α) :
    (overlay buf src).length = buf.length := by
  rw [overlay, List.length_append, List.length_take, List.length_drop]
  omega

/-- Writing on the first blank behind a text extends the text. -/
theorem set_fit {b : α} {n : Nat} {l : List α} (h : l.length < n) (c : α) :
    (fit b n l).set l.length c = fit b n (l ++ [c]) := by
  obtain ⟨k, rfl⟩ := Nat.exists_eq_add_of_lt h
  rw [fit, fit, List.take_of_length_le (by omega),
    List.take_of_length_le (by simp), List.set_append_right _ _ le_rfl,
    show l.length + k + 1 - l.length = k + 1 by omega,
    List.replicate_succ, Nat.sub_self, List.set_cons_zero,
    List.append_assoc, List.length_append, List.length_singleton,
    show l.length + k + 1 - (l.length + 1) = k by omega]
  rfl

/-- Writing over blanks is padding. -/
theorem overlay_replicate (b : α) (n : Nat) (src : List α) :
    overlay (List.replicate n b) src = fit b n src := by
  rw [overlay, fit, List.length_replicate, List.drop_replicate]

/-- A text that fits is the front of its field. -/
theorem take_fit {b : α} {n : Nat} {l : List α} (h : l.length ≤ n) :
    (fit b n l).take l.length = l := by
  rw [fit, List.take_of_length_le h, List.take_left]

-- ==================================================== position by position

theorem getD_append_blanks (b : α) (l : List α) (n i : Nat) :
    (l ++ List.replicate n b).getD i b = l.getD i b := by
  by_cases hi : i < l.length
  · rw [List.getD_append _ _ _ _ hi]
  · have hle : l.length ≤ i := Nat.le_of_not_lt hi
    rw [List.getD_append_right _ _ _ _ hle, List.getD_eq_getElem?_getD,
      List.getElem?_getD_replicate_default_eq, List.getD_eq_default _ _ hle]

theorem getD_take (b : α) (l : List α) (n i : Nat) :
    (l.take n).getD i b = if i < n then l.getD i b else b := by
  rw [List.getD_eq_getElem?_getD, List.getElem?_take,
    List.getD_eq_getElem?_getD]
  split <;> rfl

/-- Fitting keeps the first `n` positions and blanks the rest. -/
theorem getD_fit (b : α) (n : Nat) (l : List α) (i : Nat) :
    (fit b n l).getD i b = if i < n then l.getD i b else b := by
  rw [fit, getD_append_blanks, getD_take]

/-- The overwritten buffer shows the source as far as source and buffer
reach, and the old buffer beyond. -/
theorem getD_overlay (b : α) (buf src : List α) (i : Nat) :
    (overlay buf src).getD i b
      = if i < buf.length ∧ i < src.length then src.getD i b
        else buf.getD i b := by
  unfold overlay
  have hlen : (src.take buf.length).length = min buf.length src.length :=
    List.length_take
  by_cases hi : i < buf.length ∧ i < src.length
  · have hlt : i < (src.take buf.length).length := by
      rw [hlen]
      omega
    rw [List.getD_append _ _ _ _ hlt, getD_take, if_pos hi.1, if_pos hi]
  · have hle : (src.take buf.length).length ≤ i := by
      rw [hlen]
      omega
    rw [List.getD_append_right _ _ _ _ hle, if_neg hi,
      List.getD_eq_getElem?_getD, List.getElem?_drop,
      List.getD_eq_getElem?_getD, hlen]
    by_cases hb : i < buf.length
    · rw [show src.length + (i - min buf.length src.length) = i by omega]
    · rw [List.getElem?_eq_none (by omega),
        List.getElem?_eq_none (by omega)]

/-- Texts of one width that read the same are the same. -/
theorem eq_of_getD {b : α} {l m : List α} (hlen : l.length = m.length)
    (h : ∀ i, l.getD i b = m.getD i b) : l = m := by
  refine List.ext_getElem hlen fun i hl hm => ?_
  have hi := h i
  rwa [List.getD_eq_getElem _ _ hl, List.getD_eq_getElem _ _ hm] at hi

/-- Writing over a field what is at least as long as its text replaces the
text. -/
theorem overlay_fit {b : α} {n : Nat} {l src : List α}
    (h : l.length ≤ src.length) : overlay (fit b n l) src = fit b n src := by
  refine eq_of_getD (b := b) (by simp) fun i => ?_
  rw [getD_overlay, getD_fit, getD_fit, length_fit]
  by_cases hi : i < n
  · by_cases hsrc : i < src.length
    · rw [if_pos ⟨hi, hsrc⟩, if_pos hi]
    · rw [if_neg fun h => hsrc h.2, if_pos hi, if_pos hi,
        List.getD_eq_default _ _ (by omega),
        List.getD_eq_default _ _ (by omega)]
  · rw [if_neg fun h => hi h.1, if_neg hi, if_neg hi]

-- ============================================================== trimming

variable [DecidableEq α]

/-- A text is its trimmed form followed by blanks. -/
theorem exists_trimEnd_append (b : α) (l : List α) :
    ∃ n, l = trimEnd b l ++ List.replicate n b := by
  refine ⟨(l.rtakeWhile (· == b)).length, ?_⟩
  have hblank : l.rtakeWhile (· == b)
      = List.replicate (l.rtakeWhile (· == b)).length b :=
    List.eq_replicate_of_mem fun x hx => by
      simpa using List.mem_rtakeWhile_imp hx
  rw [← hblank]
  exact (List.rdropWhile_append_rtakeWhile (p := (· == b)) (l := l)).symm

/-- Trimming changes nothing a blank-reading reader sees. -/
theorem getD_trimEnd (b : α) (l : List α) (i : Nat) :
    (trimEnd b l).getD i b = l.getD i b := by
  obtain ⟨n, hn⟩ := exists_trimEnd_append b l
  conv_rhs => rw [hn]
  rw [getD_append_blanks]

@[simp] theorem trimEnd_nil (b : α) : trimEnd b [] = [] :=
  List.rdropWhile_nil _

/-- A leading blank goes only when nothing else is left. -/
theorem trimEnd_cons (b c : α) (l : List α) :
    trimEnd b (c :: l)
      = if c = b ∧ trimEnd b l = [] then [] else c :: trimEnd b l := by
  unfold trimEnd List.rdropWhile
  rw [List.reverse_cons, List.dropWhile_append]
  cases l.reverse.dropWhile (· == b) with
  | nil => by_cases hc : c = b <;> simp [hc]
  | cons x xs => simp

theorem trimEnd_append_blanks (b : α) (l : List α) (n : Nat) :
    trimEnd b (l ++ List.replicate n b) = trimEnd b l := by
  induction n with
  | zero => rw [List.replicate_zero, List.append_nil]
  | succ n ih =>
      rw [List.replicate_succ', ← List.append_assoc]
      unfold trimEnd at ih ⊢
      rw [List.rdropWhile_concat_pos _ _ _ (by simp), ih]

theorem trimEnd_replicate (b : α) (n : Nat) :
    trimEnd b (List.replicate n b) = [] := by
  have h := trimEnd_append_blanks b [] n
  rwa [List.nil_append, trimEnd_nil] at h

theorem trimEnd_trimEnd (b : α) (l : List α) :
    trimEnd b (trimEnd b l) = trimEnd b l :=
  List.rdropWhile_idempotent _ _

theorem trimEnd_trim (b : α) (l : List α) :
    trimEnd b (trim b l) = trim b l :=
  trimEnd_trimEnd b _

theorem length_trimEnd_le (b : α) (l : List α) :
    (trimEnd b l).length ≤ l.length :=
  (List.rdropWhile_prefix _ _).length_le

theorem length_trim_le (b : α) (l : List α) :
    (trim b l).length ≤ l.length :=
  (length_trimEnd_le b _).trans (List.length_dropWhile_le _ _)

/-- Texts trim to the same list exactly when no position tells them
apart. -/
theorem trimEnd_eq_iff (b : α) (l m : List α) :
    trimEnd b l = trimEnd b m ↔ ∀ i, l.getD i b = m.getD i b := by
  constructor
  · intro h i
    rw [← getD_trimEnd, h, getD_trimEnd]
  · intro h
    have hlm : fit b (max l.length m.length) l
        = fit b (max l.length m.length) m := by
      refine eq_of_getD (b := b) (by simp) fun i => ?_
      rw [getD_fit, getD_fit, h i]
    have hfit : ∀ k : List α, k.length ≤ max l.length m.length →
        trimEnd b (fit b (max l.length m.length) k) = trimEnd b k := by
      intro k hk
      rw [fit, List.take_of_length_le hk, trimEnd_append_blanks]
    rw [← hfit l (Nat.le_max_left ..), hlm, hfit m (Nat.le_max_right ..)]

/-- A common front does not tell texts apart. -/
theorem trimEnd_append_eq_iff (b : α) (k l m : List α) :
    trimEnd b (k ++ l) = trimEnd b (k ++ m) ↔ trimEnd b l = trimEnd b m := by
  rw [trimEnd_eq_iff, trimEnd_eq_iff]
  constructor
  · intro h i
    have hi := h (k.length + i)
    rw [List.getD_append_right _ _ _ _ (by omega),
      List.getD_append_right _ _ _ _ (by omega),
      Nat.add_sub_cancel_left] at hi
    exact hi
  · intro h i
    by_cases hi : i < k.length
    · rw [List.getD_append _ _ _ _ hi, List.getD_append _ _ _ _ hi]
    · rw [List.getD_append_right _ _ _ _ (by omega),
        List.getD_append_right _ _ _ _ (by omega), h]

/-- Fitting a text that fits is invisible after trimming. -/
theorem trimEnd_fit {b : α} {n : Nat} {l : List α} (h : l.length ≤ n) :
    trimEnd b (fit b n l) = trimEnd b l := by
  rw [fit, List.take_of_length_le h, trimEnd_append_blanks]

/-- So is fitting a text whose blanks alone do not fit. -/
theorem trimEnd_fit_of_trimEnd {b : α} {n : Nat} {l : List α}
    (h : (trimEnd b l).length ≤ n) : trimEnd b (fit b n l) = trimEnd b l := by
  rw [trimEnd_eq_iff]
  intro i
  rw [getD_fit]
  split
  case isTrue => rfl
  case isFalse hi =>
      rw [← getD_trimEnd, List.getD_eq_default _ _ (by omega)]

/-- Fitting a text that fits is invisible after trimming both ends. -/
theorem trim_fit {b : α} {n : Nat} {l : List α} (h : l.length ≤ n) :
    trim b (fit b n l) = trim b l := by
  rw [fit, List.take_of_length_le h, trim, trim, List.dropWhile_append]
  split
  case isTrue hnil =>
      rw [List.isEmpty_iff.mp hnil, List.dropWhile_replicate]
      simp
  case isFalse => rw [trimEnd_append_blanks]

/-- The trimmed form is what its length cuts off the text. -/
theorem take_length_trimEnd (b : α) (l : List α) :
    l.take (trimEnd b l).length = trimEnd b l :=
  (List.prefix_iff_eq_take.mp (List.rdropWhile_prefix _ _)).symm

/-- Texts of one width are told apart by their trimmed forms. -/
theorem eq_of_trimEnd_eq {b : α} {l m : List α}
    (hlen : l.length = m.length) (h : trimEnd b l = trimEnd b m) : l = m :=
  eq_of_getD hlen ((trimEnd_eq_iff b l m).mp h)

/-- Items of one width agree exactly when their texts trim alike. -/
theorem fit_eq_fit_iff {b : α} {n : Nat} {l m : List α}
    (hl : l.length ≤ n) (hm : m.length ≤ n) :
    fit b n l = fit b n m ↔ trimEnd b l = trimEnd b m := by
  constructor
  · intro h
    rw [← trimEnd_fit hl, h, trimEnd_fit hm]
  · intro h
    refine eq_of_trimEnd_eq (b := b) (by simp) ?_
    rw [trimEnd_fit hl, h, trimEnd_fit hm]

/-- Nothing is left of a text exactly when it is all blanks. -/
theorem trimEnd_eq_nil_iff (b : α) (l : List α) :
    trimEnd b l = [] ↔ ∀ x ∈ l, x = b := by
  rw [trimEnd, List.rdropWhile_eq_nil_iff]
  simp

end Lib.Blank
