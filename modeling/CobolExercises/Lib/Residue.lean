/-
Machines that carry a state from entry to entry, and buffers that are
written from the front and never cleared.

# The machine

`emit` writes, for each entry of a list, what the state after that entry
and the entry itself determine. Started in two states it writes the same
exactly when the first step makes the states equal
(`emit_cons_eq_iff`); so two lists in a row are written as if each were
alone exactly when the first entry of the second forgets what the first
list left (`emit_append_eq_iff`).

# The residue

With `Blank.overlay` as the step, position `p` of the buffer shows the
last text that reached `p` (`getD_foldl_overlay`). A text forgets what
was there exactly when, at every position it does not reach, that last
text is blank (`overlay_foldl_eq_iff`).
-/
import CobolExercises.Lib.Blank

namespace Lib.Residue

open Lib.Blank

-- ============================================================ the machine

section Emit

variable {σ β γ : Type*} (step : σ → β → σ) (out : σ → β → List γ)

/-- What the machine writes for a list of entries. -/
def emit : σ → List β → List γ
  | _, [] => []
  | s, b :: bs => out (step s b) b ++ emit (step s b) bs

theorem emit_append (s : σ) (as bs : List β) :
    emit step out s (as ++ bs)
      = emit step out s as ++ emit step out (as.foldl step s) bs := by
  induction as generalizing s with
  | nil => rfl
  | cons a as ih =>
      rw [List.cons_append, emit, emit, ih, List.append_assoc,
        List.foldl_cons]

variable {step out}

/-- Two states are told apart by the first entry or not at all. -/
theorem emit_cons_eq_iff
    (hlen : ∀ s s' b, (out s b).length = (out s' b).length)
    (hinj : ∀ s s' b, out s b = out s' b → s = s') (s s' : σ) (b : β)
    (bs : List β) :
    emit step out s (b :: bs) = emit step out s' (b :: bs)
      ↔ step s b = step s' b := by
  constructor
  · intro h
    rw [emit, emit] at h
    exact hinj _ _ b (List.append_inj_left h (hlen _ _ b))
  · intro h
    rw [emit, emit, h]

/-- Two lists in a row are written as if each were alone exactly when
the second is empty or its first entry forgets what the first list
left. -/
theorem emit_append_eq_iff
    (hlen : ∀ s s' b, (out s b).length = (out s' b).length)
    (hinj : ∀ s s' b, out s b = out s' b → s = s') (s : σ)
    (as bs : List β) :
    emit step out s (as ++ bs) = emit step out s as ++ emit step out s bs
      ↔ ∀ b, bs.head? = some b → step (as.foldl step s) b = step s b := by
  rw [emit_append, List.append_cancel_left_eq]
  cases bs with
  | nil => simp [emit]
  | cons b bs => simp [emit_cons_eq_iff hlen hinj]

end Emit

-- ============================================================ the residue

variable {α : Type*} {b : α}

/-- Whatever is written over it, a buffer keeps its width. -/
theorem length_foldl_overlay (buf : List α) (srcs : List (List α)) :
    (srcs.foldl overlay buf).length = buf.length := by
  induction srcs generalizing buf with
  | nil => rfl
  | cons src srcs ih => rw [List.foldl_cons, ih, length_overlay]

/-- A position no text reaches shows the old buffer. -/
theorem getD_foldl_overlay_of_le {buf : List α} {srcs : List (List α)}
    {p : Nat} (h : ∀ src ∈ srcs, src.length ≤ p) :
    (srcs.foldl overlay buf).getD p b = buf.getD p b := by
  induction srcs generalizing buf with
  | nil => rfl
  | cons src srcs ih =>
      have hsrc := h src List.mem_cons_self
      rw [List.foldl_cons, ih fun s hs => h s (List.mem_cons_of_mem _ hs),
        getD_overlay, if_neg (by omega)]

/-- A position shows the last text that reaches it. -/
theorem getD_foldl_overlay {buf : List α} {pre post : List (List α)}
    {src : List α} {p : Nat} (hbuf : p < buf.length)
    (hsrc : p < src.length) (hpost : ∀ s ∈ post, s.length ≤ p) :
    ((pre ++ src :: post).foldl overlay buf).getD p b = src.getD p b := by
  have hlen : p < (pre.foldl overlay buf).length := by
    rwa [length_foldl_overlay]
  rw [List.foldl_append, List.foldl_cons, getD_foldl_overlay_of_le hpost,
    getD_overlay, if_pos ⟨hlen, hsrc⟩]

/-- `p` is blank in the last of the texts that reaches it. -/
def LastBlank (b : α) (srcs : List (List α)) (p : Nat) : Prop :=
  ∀ pre src post, srcs = pre ++ src :: post → p < src.length →
    (∀ s ∈ post, s.length ≤ p) → src.getD p b = b

/-- Over blanks, that is what it takes for the buffer to be blank. -/
theorem getD_foldl_overlay_eq_blank_iff {n p : Nat}
    {srcs : List (List α)} (hp : p < n) :
    (srcs.foldl overlay (List.replicate n b)).getD p b = b
      ↔ LastBlank b srcs p := by
  have hbuf : p < (List.replicate n b).length := by
    rwa [List.length_replicate]
  constructor
  · intro h pre src post hsplit hsrc hpost
    subst hsplit
    rwa [getD_foldl_overlay hbuf hsrc hpost] at h
  · intro h
    induction srcs using List.reverseRecOn with
    | nil => simp
    | append_singleton srcs src ih =>
        rw [List.foldl_append, List.foldl_cons, List.foldl_nil,
          getD_overlay, length_foldl_overlay]
        split
        case isTrue hreach => exact h srcs src [] rfl hreach.2 (by simp)
        case isFalse hreach =>
            refine ih fun pre s post hsplit hs hpost => ?_
            refine h pre s (post ++ [src]) (by simp [hsplit]) hs ?_
            intro t ht
            rcases List.mem_append.mp ht with ht | ht
            · exact hpost t ht
            · obtain rfl := List.mem_singleton.mp ht
              omega

/-- A text forgets what earlier texts left in a blank buffer exactly when
they left blanks at every position it does not reach. -/
theorem overlay_foldl_eq_iff {n : Nat} {srcs : List (List α)}
    {src : List α} :
    overlay (srcs.foldl overlay (List.replicate n b)) src
        = overlay (List.replicate n b) src
      ↔ ∀ p, src.length ≤ p → p < n → LastBlank b srcs p := by
  constructor
  · intro h p hle hlt
    have hp := congrArg (List.getD · p b) h
    simp only [getD_overlay] at hp
    rw [if_neg (by omega), if_neg (by omega)] at hp
    rw [← getD_foldl_overlay_eq_blank_iff hlt, hp]
    simp
  · intro h
    refine eq_of_getD (b := b) (by simp [length_foldl_overlay])
      fun p => ?_
    rw [getD_overlay, getD_overlay, length_foldl_overlay]
    split
    case isTrue => rfl
    case isFalse hreach =>
        rw [List.length_replicate] at hreach
        by_cases hlt : p < n
        · rw [(getD_foldl_overlay_eq_blank_iff hlt).mpr
            (h p (by omega) hlt)]
          simp
        · have hge : n ≤ p := Nat.le_of_not_lt hlt
          rw [List.getD_eq_default _ _ (by simpa [length_foldl_overlay]),
            List.getD_eq_default _ _ (by simpa)]

end Lib.Residue
