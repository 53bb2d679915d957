/-
Bounded runs and the loops built from them: a shallow embedding of
programs whose loops may fail to end.

# The result of a bounded run

A computation is a function of a fuel bound. With too little fuel it
answers `running`; otherwise it answers with a value (`ok`) or stops
early (`abort`). A program's meaning is the answer it keeps from some
bound on (`Settles`): `Settles f (.ok a)` is termination with `a`,
`Settles f .running` is a run that no bound brings to an end.

# The loop rules

`loopUntil` tests before every iteration and takes a body that is
itself bounded. `LoopSettles` lets the loop's bound and the body's
bound grow independently, which is what makes the rules compose: one
iteration is a bind, and nothing has to be monotone in the fuel.

- `LoopSettles.exit`, `.step`, `.abort`, `.hang`: one turn of the loop;
- `LoopSettles.total`: an invariant with the number of iterations to go;
- `LoopSettles.counting`: the same with the number of iterations done;
- `LoopSettles.reading`: the same for a loop that reads a list to its
  end, with the unread entries in the invariant;
- `LoopSettles.diverge`: an invariant that keeps the exit test false
  keeps the loop running for ever.
-/
import Mathlib.Data.List.Basic

namespace Lib

universe u v

-- =========================================================== the result

/-- What a run under a fuel bound yields: a value, an early stop, or no
answer within the bound. -/
inductive Run (ε : Type u) (α : Type v) where
  | ok (a : α)
  | abort (e : ε)
  | running
deriving DecidableEq, Repr

namespace Run

variable {ε : Type u} {α β : Type v}

/-- Sequencing: only a value is handed on. -/
def bind : Run ε α → (α → Run ε β) → Run ε β
  | .ok a, g => g a
  | .abort e, _ => .abort e
  | .running, _ => .running

instance : Monad (Run ε) where
  pure := .ok
  bind := bind

@[simp] theorem ok_bind (a : α) (g : α → Run ε β) :
    ((Run.ok a : Run ε α) >>= g) = g a := rfl

@[simp] theorem abort_bind (e : ε) (g : α → Run ε β) :
    ((Run.abort e : Run ε α) >>= g) = .abort e := rfl

@[simp] theorem running_bind (g : α → Run ε β) :
    ((Run.running : Run ε α) >>= g) = .running := rfl

end Run

-- ============================================================= settling

variable {ε : Type u} {α β σ : Type v}

/-- From some bound on, the computation gives the answer `r`. -/
def Settles (f : Nat → Run ε α) (r : Run ε α) : Prop :=
  ∃ N, ∀ fuel, N ≤ fuel → f fuel = r

/-- A computation settles on one answer at most. -/
theorem Settles.unique {f : Nat → Run ε α} {r r' : Run ε α}
    (h : Settles f r) (h' : Settles f r') : r = r' := by
  obtain ⟨N, hN⟩ := h
  obtain ⟨N', hN'⟩ := h'
  rw [← hN (max N N') (Nat.le_max_left ..),
    ← hN' (max N N') (Nat.le_max_right ..)]

/-- A computation that ignores its bound settles at once. -/
theorem Settles.const (r : Run ε α) : Settles (fun _ => r) r :=
  ⟨0, fun _ _ => rfl⟩

/-- Settling looks at the computation's values only. -/
theorem Settles.congr {f g : Nat → Run ε α} {r : Run ε α}
    (h : Settles f r) (hfg : ∀ fuel, g fuel = f fuel) : Settles g r := by
  obtain ⟨N, hN⟩ := h
  exact ⟨N, fun fuel hle => by rw [hfg, hN fuel hle]⟩

/-- Sequencing of two settled computations. -/
theorem Settles.bind {f : Nat → Run ε α} {g : Nat → α → Run ε β} {a : α}
    {r : Run ε β} (hf : Settles f (.ok a))
    (hg : Settles (fun fuel => g fuel a) r) :
    Settles (fun fuel => f fuel >>= g fuel) r := by
  obtain ⟨N, hN⟩ := hf
  obtain ⟨M, hM⟩ := hg
  refine ⟨max N M, fun fuel hle => ?_⟩
  have hf' : f fuel = .ok a := hN fuel (by omega)
  have hg' : g fuel a = r := hM fuel (by omega)
  show (f fuel >>= g fuel) = r
  rw [hf', Run.ok_bind, hg']

/-- A first part that never ends keeps the sequence from ending. -/
theorem Settles.bind_running {f : Nat → Run ε α} {g : Nat → α → Run ε β}
    (hf : Settles f .running) :
    Settles (fun fuel => f fuel >>= g fuel) .running := by
  obtain ⟨N, hN⟩ := hf
  exact ⟨N, fun fuel hle => by
    show (f fuel >>= g fuel) = _
    rw [hN fuel hle, Run.running_bind]⟩

-- ============================================================= the loop

/-- Iterate `body` until `done` holds, testing before each iteration;
at most `fuel` tests are made. -/
def loopUntil (done : σ → Bool) (body : σ → Run ε σ) :
    Nat → σ → Run ε σ
  | 0, _ => .running
  | fuel + 1, s =>
      if done s then .ok s else body s >>= loopUntil done body fuel

/-- The loop from `s` settles on `r`, the bounds of the loop and of its
body being free of each other. -/
def LoopSettles (done : σ → Bool) (body : Nat → σ → Run ε σ) (s : σ)
    (r : Run ε σ) : Prop :=
  ∃ N, ∀ k, N ≤ k → ∀ fuel, N ≤ fuel →
    loopUntil done (body k) fuel s = r

variable {done : σ → Bool} {body : Nat → σ → Run ε σ} {s s' : σ}
  {r : Run ε σ}

/-- One bound for the loop and its body is a special case. -/
theorem LoopSettles.settles (h : LoopSettles done body s r) :
    Settles (fun fuel => loopUntil done (body fuel) fuel s) r := by
  obtain ⟨N, hN⟩ := h
  exact ⟨N, fun fuel hle => hN fuel hle fuel hle⟩

/-- The exit test holds: the loop leaves the state alone. -/
theorem LoopSettles.exit (hd : done s = true) :
    LoopSettles done body s (.ok s) := by
  refine ⟨1, fun k _ fuel hle => ?_⟩
  obtain ⟨n, rfl⟩ := Nat.exists_eq_add_of_le hle
  rw [Nat.add_comm, loopUntil, if_pos hd]

/-- One iteration, then the rest. -/
theorem LoopSettles.step (hd : done s = false)
    (hb : Settles (fun k => body k s) (.ok s'))
    (h : LoopSettles done body s' r) : LoopSettles done body s r := by
  obtain ⟨N, hN⟩ := hb
  obtain ⟨M, hM⟩ := h
  refine ⟨max N M + 1, fun k hk fuel hfuel => ?_⟩
  obtain ⟨n, rfl⟩ := Nat.exists_eq_add_of_le hfuel
  have hiter : body k s = .ok s' := hN k (by omega)
  have hrest := hM k (by omega) (max N M + n) (by omega)
  rw [show max N M + 1 + n = max N M + n + 1 by omega, loopUntil, hd,
    if_neg (by simp), hiter, Run.ok_bind, hrest]

/-- An iteration that stops early stops the loop. -/
theorem LoopSettles.abort {e : ε} (hd : done s = false)
    (hb : Settles (fun k => body k s) (.abort e)) :
    LoopSettles done body s (.abort e) := by
  obtain ⟨N, hN⟩ := hb
  refine ⟨N + 1, fun k hk fuel hfuel => ?_⟩
  obtain ⟨n, rfl⟩ := Nat.exists_eq_add_of_le hfuel
  have hiter : body k s = .abort e := hN k (by omega)
  rw [show N + 1 + n = N + n + 1 by omega, loopUntil, hd,
    if_neg (by simp), hiter, Run.abort_bind]

/-- An iteration that never ends keeps the loop from ending. -/
theorem LoopSettles.hang (hd : done s = false)
    (hb : Settles (fun k => body k s) .running) :
    LoopSettles done body s .running := by
  obtain ⟨N, hN⟩ := hb
  refine ⟨N + 1, fun k hk fuel hfuel => ?_⟩
  obtain ⟨n, rfl⟩ := Nat.exists_eq_add_of_le hfuel
  have hiter : body k s = .running := hN k (by omega)
  rw [show N + 1 + n = N + n + 1 by omega, loopUntil, hd,
    if_neg (by simp), hiter, Run.running_bind]

/-- Total correctness by a counter: `P n` holds with `n` iterations to go,
every one of them succeeds, and what the loop does from `P 0` on is
known. -/
theorem LoopSettles.total (done : σ → Bool) (body : Nat → σ → Run ε σ)
    {P : Nat → σ → Prop} {Q : Run ε σ → Prop}
    (hlast : ∀ s, P 0 s → ∃ r, LoopSettles done body s r ∧ Q r)
    (hstep : ∀ n s, P (n + 1) s → done s = false
      ∧ ∃ s', Settles (fun k => body k s) (.ok s') ∧ P n s') :
    ∀ n s, P n s → ∃ r, LoopSettles done body s r ∧ Q r := by
  intro n
  induction n with
  | zero => exact hlast
  | succ n ih =>
      intro s hs
      obtain ⟨hd, s', hb, hs'⟩ := hstep n s hs
      obtain ⟨r, hr, hQ⟩ := ih s' hs'
      exact ⟨r, .step hd hb hr, hQ⟩

/-- The same with a counter that goes up: `P i` holds behind `i`
iterations, and the exit test holds behind `n` of them. -/
theorem LoopSettles.counting (done : σ → Bool) (body : Nat → σ → Run ε σ)
    {P : Nat → σ → Prop} (n : Nat) (hlast : ∀ s, P n s → done s = true)
    (hstep : ∀ i s, i < n → P i s → done s = false
      ∧ ∃ s', Settles (fun k => body k s) (.ok s') ∧ P (i + 1) s')
    (hs : P 0 s) : ∃ s', LoopSettles done body s (.ok s') ∧ P n s' := by
  have hloop := LoopSettles.total done body
    (P := fun m s => ∃ i, i + m = n ∧ P i s)
    (Q := fun r => ∃ s, r = .ok s ∧ P n s) ?_ ?_ n s
    ⟨0, Nat.zero_add n, hs⟩
  · obtain ⟨r, hr, s', rfl, h⟩ := hloop
    exact ⟨s', hr, h⟩
  · intro t ht
    obtain ⟨i, hi, h⟩ := ht
    obtain rfl : i = n := hi
    exact ⟨.ok t, .exit (hlast t h), t, rfl, h⟩
  · intro m t ht
    obtain ⟨i, hi, h⟩ := ht
    obtain ⟨hd, t', hb, h'⟩ := hstep i t (by omega) h
    exact ⟨hd, t', hb, i + 1, by omega, h'⟩

/-- Total correctness of a read loop: `P l` holds while the entries `l`
are unread, one iteration reads one entry, and one more iteration finds
the end and makes the exit test true. -/
theorem LoopSettles.reading (done : σ → Bool)
    (body : Nat → σ → Run ε σ) {P : List β → σ → Prop} {Q : σ → Prop}
    (hend : ∀ s, P [] s → done s = false
      ∧ ∃ s', Settles (fun k => body k s) (.ok s')
        ∧ done s' = true ∧ Q s')
    (hread : ∀ b bs s, P (b :: bs) s → done s = false
      ∧ ∃ s', Settles (fun k => body k s) (.ok s') ∧ P bs s') :
    ∀ l s, P l s → ∃ s', LoopSettles done body s (.ok s') ∧ Q s' := by
  intro l
  induction l with
  | nil =>
      intro s hs
      obtain ⟨hd, s', hb, hd', hQ⟩ := hend s hs
      exact ⟨s', .step hd hb (.exit hd'), hQ⟩
  | cons b bs ih =>
      intro s hs
      obtain ⟨hd, s', hb, hs'⟩ := hread b bs s hs
      obtain ⟨t, ht, hQ⟩ := ih s' hs'
      exact ⟨t, .step hd hb ht, hQ⟩

/-- An invariant under which the exit test fails and every iteration
succeeds keeps the loop running whatever the bound. -/
theorem LoopSettles.diverge {P : σ → Prop}
    (hstep : ∀ s, P s → done s = false
      ∧ ∃ s', (∀ k, body k s = .ok s') ∧ P s') (hs : P s) :
    LoopSettles done body s .running := by
  refine ⟨0, fun k _ fuel hfuel => ?_⟩
  clear hfuel
  induction fuel generalizing s with
  | zero => rfl
  | succ n ih =>
      obtain ⟨hd, s', hb, hP'⟩ := hstep s hs
      rw [loopUntil, hd, if_neg (by simp), hb k, Run.ok_bind]
      exact ih hP'

end Lib
