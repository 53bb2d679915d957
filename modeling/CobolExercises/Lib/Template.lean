/-
Texts with holes: a mark starts a hole, and the first stop character
behind it ends it.

Every text is a template in one way only (`exists_template`,
`eq_of_source_eq`), so whatever is said of the head, the names of the
holes and the pieces between them is said of the text.
-/
import Mathlib.Data.List.Basic

namespace Lib

/-- What stands in front of the first hole, and each hole's name with what
follows it. -/
structure Template (α : Type*) where
  head : List α
  holes : List (List α × List α)

namespace Template

variable {α : Type*} {m : α} {stop : α → Bool}

/-- The text of the holes and what follows them. -/
def sourceOf (m : α) : List (List α × List α) → List α
  | [] => []
  | h :: holes => m :: (h.1 ++ (h.2 ++ sourceOf m holes))

/-- The holes filled with `g k`, `g (k + 1)` and so on. -/
def fillFrom (g : Nat → List α) : Nat → List (List α × List α) → List α
  | _, [] => []
  | k, h :: holes => g k ++ (h.2 ++ fillFrom g (k + 1) holes)

/-- A name has no stop character, what follows it has no mark and begins
with a stop character; nothing follows only at the end. -/
def WfHoles (m : α) (stop : α → Bool) : List (List α × List α) → Prop
  | [] => True
  | h :: holes =>
      (∀ c ∈ h.1, stop c = false) ∧ m ∉ h.2
        ∧ (match h.2 with
          | [] => holes = []
          | c :: _ => stop c = true)
        ∧ WfHoles m stop holes

/-- The text of a template. -/
def source (m : α) (t : Template α) : List α := t.head ++ sourceOf m t.holes

/-- The text with its holes filled. -/
def fill (g : Nat → List α) (t : Template α) : List α :=
  t.head ++ fillFrom g 1 t.holes

/-- The template is the one its text is read as. -/
def Wf (m : α) (stop : α → Bool) (t : Template α) : Prop :=
  m ∉ t.head ∧ WfHoles m stop t.holes

-- =============================================================== existence

/-- A text up to its first mark, and the mark with what follows it. -/
theorem exists_split (m : α) (l : List α) :
    ∃ l₁ l₂, l = l₁ ++ l₂ ∧ m ∉ l₁ ∧ (l₂ = [] ∨ ∃ r, l₂ = m :: r) := by
  induction l with
  | nil => exact ⟨[], [], rfl, List.not_mem_nil, .inl rfl⟩
  | cons c l ih =>
      by_cases hc : c = m
      · exact ⟨[], c :: l, rfl, List.not_mem_nil, .inr ⟨l, by rw [hc]⟩⟩
      · obtain ⟨l₁, l₂, rfl, hmem, hl₂⟩ := ih
        refine ⟨c :: l₁, l₂, rfl, ?_, hl₂⟩
        intro h
        rcases List.mem_cons.mp h with heq | h
        · exact hc heq.symm
        · exact hmem h

/-- A text up to its first stop character. -/
theorem exists_name (stop : α → Bool) (l : List α) :
    ∃ l₁ l₂, l = l₁ ++ l₂ ∧ (∀ c ∈ l₁, stop c = false)
      ∧ (l₂ = [] ∨ ∃ c r, l₂ = c :: r ∧ stop c = true) := by
  induction l with
  | nil => exact ⟨[], [], rfl, nofun, .inl rfl⟩
  | cons c l ih =>
      cases hc : stop c with
      | true => exact ⟨[], c :: l, rfl, nofun, .inr ⟨c, l, rfl, hc⟩⟩
      | false =>
          obtain ⟨l₁, l₂, rfl, hname, hl₂⟩ := ih
          refine ⟨c :: l₁, l₂, rfl, ?_, hl₂⟩
          intro d hd
          rcases List.mem_cons.mp hd with rfl | hd
          · exact hc
          · exact hname d hd

/-- A text that begins with a mark is holes. -/
theorem exists_holes (hm : stop m = false) (l : List α) :
    ∃ holes, m :: l = sourceOf m holes ∧ WfHoles m stop holes := by
  induction hn : l.length using Nat.strongRecOn generalizing l with
  | _ n ih =>
      obtain ⟨name, rest, rfl, hname, hrest⟩ := exists_name stop l
      rcases hrest with rfl | ⟨c, r, rfl, hc⟩
      · refine ⟨[(name, [])], by simp [sourceOf], hname, ?_⟩
        exact ⟨List.not_mem_nil, rfl, trivial⟩
      · obtain ⟨tail, l₂, rfl, htail, hl₂⟩ := exists_split m r
        have hmem : m ∉ c :: tail := by
          intro h
          rcases List.mem_cons.mp h with rfl | h
          · rw [hm] at hc
            cases hc
          · exact htail h
        rcases hl₂ with rfl | ⟨r, rfl⟩
        · refine ⟨[(name, c :: tail)], by simp [sourceOf], hname, hmem, hc,
            trivial⟩
        · have hlt : r.length < n := by
            rw [← hn]
            simp only [List.length_append, List.length_cons]
            omega
          obtain ⟨holes, hsource, hwf⟩ := ih _ hlt r rfl
          refine ⟨(name, c :: tail) :: holes, ?_, hname, hmem, hc, hwf⟩
          rw [sourceOf, ← hsource]
          simp

/-- Every text is a template. -/
theorem exists_template (hm : stop m = false) (l : List α) :
    ∃ t : Template α, t.Wf m stop ∧ t.source m = l := by
  obtain ⟨head, rest, rfl, hhead, hrest⟩ := exists_split m l
  rcases hrest with rfl | ⟨r, rfl⟩
  · exact ⟨⟨head, []⟩, ⟨hhead, trivial⟩, rfl⟩
  · obtain ⟨holes, hsource, hwf⟩ := exists_holes hm r
    exact ⟨⟨head, holes⟩, ⟨hhead, hwf⟩,
      congrArg (head ++ ·) hsource.symm⟩

-- ============================================================== uniqueness

/-- Two splits in front of the first mark. -/
theorem append_inj_of_not_mem {l₁ l₂ r₁ r₂ : List α} (h₁ : m ∉ l₁)
    (h₂ : m ∉ l₂) (hr₁ : r₁ = [] ∨ ∃ r, r₁ = m :: r)
    (hr₂ : r₂ = [] ∨ ∃ r, r₂ = m :: r) (h : l₁ ++ r₁ = l₂ ++ r₂) :
    l₁ = l₂ ∧ r₁ = r₂ := by
  induction l₁ generalizing l₂ with
  | nil =>
      cases l₂ with
      | nil => exact ⟨rfl, h⟩
      | cons d l₂ =>
          rw [List.nil_append] at h
          rcases hr₁ with rfl | ⟨r, rfl⟩
          · cases h
          · obtain ⟨rfl, -⟩ := List.cons.inj h
            exact absurd List.mem_cons_self h₂
  | cons c l₁ ih =>
      cases l₂ with
      | nil =>
          rw [List.nil_append] at h
          rcases hr₂ with rfl | ⟨r, rfl⟩
          · cases h
          · obtain ⟨rfl, -⟩ := List.cons.inj h
            exact absurd List.mem_cons_self h₁
      | cons d l₂ =>
          obtain ⟨rfl, hrest⟩ := List.cons.inj h
          obtain ⟨rfl, hr⟩ := ih (fun hc => h₁ (List.mem_cons_of_mem c hc))
            (fun hc => h₂ (List.mem_cons_of_mem c hc)) hrest
          exact ⟨rfl, hr⟩

/-- Two splits in front of the first stop character. -/
theorem append_inj_of_stop {l₁ l₂ r₁ r₂ : List α}
    (h₁ : ∀ c ∈ l₁, stop c = false) (h₂ : ∀ c ∈ l₂, stop c = false)
    (hr₁ : ∀ c ∈ r₁.head?, stop c = true)
    (hr₂ : ∀ c ∈ r₂.head?, stop c = true) (h : l₁ ++ r₁ = l₂ ++ r₂) :
    l₁ = l₂ ∧ r₁ = r₂ := by
  induction l₁ generalizing l₂ with
  | nil =>
      cases l₂ with
      | nil => exact ⟨rfl, h⟩
      | cons d l₂ =>
          rw [List.nil_append] at h
          subst h
          have hstop := hr₁ d rfl
          rw [h₂ d List.mem_cons_self] at hstop
          cases hstop
  | cons c l₁ ih =>
      cases l₂ with
      | nil =>
          rw [List.nil_append] at h
          subst h
          have hstop := hr₂ c rfl
          rw [h₁ c List.mem_cons_self] at hstop
          cases hstop
      | cons d l₂ =>
          obtain ⟨rfl, hrest⟩ := List.cons.inj h
          obtain ⟨rfl, hr⟩ := ih (fun x hx => h₁ x (List.mem_cons_of_mem c hx))
            (fun x hx => h₂ x (List.mem_cons_of_mem c hx)) hrest
          exact ⟨rfl, hr⟩

theorem sourceOf_eq (m : α) (holes : List (List α × List α)) :
    sourceOf m holes = [] ∨ ∃ r, sourceOf m holes = m :: r := by
  cases holes with
  | nil => exact .inl rfl
  | cons h holes => exact .inr ⟨_, rfl⟩

/-- What follows a name begins with a stop character. -/
theorem stop_of_mem_head? {h : List α × List α}
    {holes : List (List α × List α)} (hwf : WfHoles m stop (h :: holes)) :
    ∀ c ∈ (h.2 ++ sourceOf m holes).head?, stop c = true := by
  obtain ⟨name, tail⟩ := h
  obtain ⟨-, -, htail, -⟩ := hwf
  cases tail with
  | nil =>
      dsimp only at htail
      subst htail
      exact nofun
  | cons d tail =>
      intro c hc
      obtain rfl := Option.some.inj hc
      exact htail

theorem eq_of_sourceOf_eq {holes holes' : List (List α × List α)}
    (hwf : WfHoles m stop holes) (hwf' : WfHoles m stop holes')
    (h : sourceOf m holes = sourceOf m holes') : holes = holes' := by
  induction holes generalizing holes' with
  | nil =>
      cases holes' with
      | nil => rfl
      | cons h' holes' => cases h
  | cons hole holes ih =>
      cases holes' with
      | nil => cases h
      | cons hole' holes' =>
          have htext := (List.cons.inj h).2
          obtain ⟨hname, hrest⟩ := append_inj_of_stop hwf.1 hwf'.1
            (stop_of_mem_head? hwf) (stop_of_mem_head? hwf') htext
          obtain ⟨htail, hsource⟩ := append_inj_of_not_mem hwf.2.1 hwf'.2.1
            (sourceOf_eq m holes) (sourceOf_eq m holes') hrest
          rw [ih hwf.2.2.2 hwf'.2.2.2 hsource, Prod.ext hname htail]

/-- A text is a template in one way only. -/
theorem eq_of_source_eq {t t' : Template α} (hwf : t.Wf m stop)
    (hwf' : t'.Wf m stop) (h : t.source m = t'.source m) : t = t' := by
  obtain ⟨head, holes⟩ := t
  obtain ⟨head', holes'⟩ := t'
  obtain ⟨hhead, hholes⟩ := append_inj_of_not_mem hwf.1 hwf'.1
    (sourceOf_eq m holes) (sourceOf_eq m holes') h
  dsimp only at hhead
  subst hhead
  exact congrArg (mk head) (eq_of_sourceOf_eq hwf.2 hwf'.2 hholes)

end Template

end Lib
