/-
A function that may fail, along a list (`List.mapM` in `Option`).

It succeeds if it does for every entry, and what comes out are the results
in the order of the entries (`mapM_eq_some_iff`).
-/
import Mathlib.Data.List.Forall2

namespace Lib.Traverse

variable {α β : Type} {f g : α → Option β} {as : List α} {bs : List β}

/-- The results are those of the entries, one for each. -/
theorem mapM_eq_some_iff :
    as.mapM f = some bs ↔ List.Forall₂ (fun a b => f a = some b) as bs := by
  induction as generalizing bs with
  | nil =>
      rw [List.forall₂_nil_left_iff]
      constructor
      · intro h
        exact (Option.some.inj h).symm
      · rintro rfl
        rfl
  | cons a as ih =>
      rw [List.mapM_cons, List.forall₂_cons_left_iff]
      constructor
      · intro h
        obtain ⟨b, hb, h⟩ := Option.bind_eq_some_iff.mp h
        obtain ⟨rest, hrest, h⟩ := Option.bind_eq_some_iff.mp h
        exact ⟨b, rest, hb, ih.mp hrest, (Option.some.inj h).symm⟩
      · rintro ⟨b, rest, hb, hrest, rfl⟩
        rw [hb, ih.mpr hrest]
        rfl

/-- The first entry and the others. -/
theorem mapM_cons_some {a : α} (h : (a :: as).mapM f = some bs) :
    ∃ b rest, f a = some b ∧ as.mapM f = some rest ∧ bs = b :: rest := by
  obtain ⟨b, rest, hb, hrest, rfl⟩ :=
    List.forall₂_cons_left_iff.mp (mapM_eq_some_iff.mp h)
  exact ⟨b, rest, hb, mapM_eq_some_iff.mpr hrest, rfl⟩

/-- There are as many results as entries. -/
theorem length_mapM_some (h : as.mapM f = some bs) :
    bs.length = as.length :=
  (mapM_eq_some_iff.mp h).length_eq.symm

end Lib.Traverse
