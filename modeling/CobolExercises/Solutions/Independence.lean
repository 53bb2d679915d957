/-
When the reference solutions 8 and 9 write for each customer what they
would write for the customer alone.

Both programs write the report of a machine that carries the name buffer,
so two customer files in a row are written as if each were alone exactly
when the first customer of the second forgets the buffer
(`Residue.emit_append_eq_iff`). The buffer forgets when, behind the new
name, the last earlier name that reaches a position is blank there
(`Residue.overlay_foldl_eq_iff`); and a name is blank only between its
two parts.
-/
import CobolExercises.Solutions.Opgave8
import CobolExercises.Solutions.Opgave9

namespace CobolExercises.Solutions

open Lib

-- ================================================== what the two promise

/-- Solution 8 writes for `A` followed by `B` what it writes for `A` and
then what it writes for `B`. -/
def Independent8 (A B K : List Line) : Prop :=
  ∃ a b, Opgave8.Writes A K a ∧ Opgave8.Writes B K b
    ∧ Opgave8.Writes (A ++ B) K (a ++ b)

/-- The same for solution 9. -/
def Independent9 (A B K : List Line) : Prop :=
  ∃ a b, Opgave9.Writes A K a ∧ Opgave9.Writes B K b
    ∧ Opgave9.Writes (A ++ B) K (a ++ b)

/-- The name of a customer line, as far as FORMAT-NAVN strings it. -/
def navn (l : Line) : Line := (navnKilder (PicX.ofLine 211 l)).flatten

/-- How long the first part of that name is. -/
def fornavnLength (l : Line) : Nat :=
  (KundeRekord.fornavn (PicX.ofLine 211 l)).untilSpace.length

/-- At every position of the name buffer behind the name of the first
customer of `B`, the last name of `A` that reaches it has the space
between its parts there. -/
def NothingShows (A B : List Line) : Prop :=
  ∀ b, B.head? = some b → ∀ p, (navn b).length ≤ p → p < 40 →
    ∀ pre a post, A = pre ++ a :: post → p < (navn a).length →
      (∀ c ∈ post, (navn c).length ≤ p) → p = fornavnLength a

-- ======================================================== the name buffer

/-- The buffer after some customers, as an overlay of their names. -/
theorem chars_foldl_nextNavn (buf : PicX 40) (A : List Line) :
    ((A.map (PicX.ofLine 211)).foldl nextNavn buf).chars
      = (A.map navn).foldl Blank.overlay buf.chars := by
  induction A generalizing buf with
  | nil => rfl
  | cons a A ih =>
      rw [List.map_cons, List.foldl_cons, ih, List.map_cons,
        List.foldl_cons]
      rfl

/-- A text of two parts without spaces has one space. -/
theorem getD_two_parts {u v : Line} {p : Nat} (hu : ∀ c ∈ u, c ≠ ' ')
    (hv : ∀ c ∈ v, c ≠ ' ') (hp : p < (u ++ ' ' :: v).length) :
    (u ++ ' ' :: v).getD p ' ' = ' ' ↔ p = u.length := by
  rcases Nat.lt_trichotomy p u.length with hlt | rfl | hgt
  · rw [List.getD_append _ _ _ _ hlt, List.getD_eq_getElem _ _ hlt]
    exact ⟨fun h => absurd h (hu _ (List.getElem_mem hlt)), by omega⟩
  · rw [List.getD_append_right _ _ _ _ le_rfl]
    simp
  · rw [List.length_append, List.length_cons] at hp
    rw [List.getD_append_right _ _ _ _ hgt.le,
      show p - u.length = (p - u.length - 1) + 1 by omega,
      List.getD_cons_succ, List.getD_eq_getElem _ _ (by omega)]
    exact ⟨fun h => absurd h (hv _ (List.getElem_mem _)), by omega⟩

/-- A name is blank between its parts and nowhere else. -/
theorem getD_navn {l : Line} {p : Nat} (hp : p < (navn l).length) :
    (navn l).getD p ' ' = ' ' ↔ p = fornavnLength l := by
  have hnavn : navn l
      = (KundeRekord.fornavn (PicX.ofLine 211 l)).untilSpace
        ++ ' ' :: (KundeRekord.efternavn (PicX.ofLine 211 l)).untilSpace := by
    simp [navn, navnKilder]
  rw [hnavn] at hp ⊢
  exact getD_two_parts (fun _ => PicX.ne_space_of_mem_untilSpace)
    (fun _ => PicX.ne_space_of_mem_untilSpace) hp

/-- The last name that reaches `p` is blank there exactly when `p` is
between its parts. -/
theorem lastBlank_iff (A : List Line) (p : Nat) :
    Residue.LastBlank ' ' (A.map navn) p
      ↔ ∀ pre a post, A = pre ++ a :: post → p < (navn a).length →
        (∀ c ∈ post, (navn c).length ≤ p) → p = fornavnLength a := by
  constructor
  · rintro h pre a post rfl ha hpost
    rw [← getD_navn ha]
    exact h (pre.map navn) (navn a) (post.map navn) (by simp) ha
      (by simpa using hpost)
  · intro h pre src post hsplit hsrc hpost
    obtain ⟨A₁, A₂, rfl, rfl, htail⟩ := List.map_eq_append_iff.mp hsplit
    obtain ⟨a, A₃, rfl, rfl, rfl⟩ := List.map_eq_cons_iff.mp htail
    rw [getD_navn hsrc]
    exact h A₁ a A₃ rfl hsrc fun c hc => hpost _ (List.mem_map_of_mem hc)

/-- A customer forgets what earlier customers left in the name buffer
exactly when they left blanks behind the name. -/
theorem nextNavn_foldl_eq_iff (A : List Line) (b : Line) :
    nextNavn ((A.map (PicX.ofLine 211)).foldl nextNavn (PicX.spaces 40))
          (PicX.ofLine 211 b)
        = nextNavn (PicX.spaces 40) (PicX.ofLine 211 b)
      ↔ ∀ p, (navn b).length ≤ p → p < 40 →
        Residue.LastBlank ' ' (A.map navn) p := by
  rw [PicX.ext_iff, ← Residue.overlay_foldl_eq_iff (n := 40)]
  show Blank.overlay (((A.map (PicX.ofLine 211)).foldl nextNavn
    (PicX.spaces 40)).chars) (navn b) = _ ↔ _
  rw [chars_foldl_nextNavn]
  rfl

-- ============================================================== the report

/-- A block has the same number of lines whatever the name buffer. -/
theorem length_kundeLinjer (konti : List KontoRekord) (s s' : PicX 40)
    (k : KundeRekord) :
    (kundeLinjer konti s k).length = (kundeLinjer konti s' k).length := by
  simp [kundeLinjer, hovedLinjer]

/-- The name buffer can be read off the block. -/
theorem kundeLinjer_inj (konti : List KontoRekord) (s s' : PicX 40)
    (k : KundeRekord) (h : kundeLinjer konti s k = kundeLinjer konti s' k) :
    s = s' := by
  have hline : linje (navnLinje k s) = linje (navnLinje k s') :=
    (List.cons.inj h).1
  have htext : (navnLinje k s).flatten = (navnLinje k s').flatten :=
    Blank.eq_of_trimEnd_eq (by simp [navnLinje]) hline
  exact PicX.ext (by simpa [navnLinje] using htext)

/-- The report on two customer files in a row is their two reports
exactly when nothing of the first shows in the second. -/
theorem rapport_append_iff (konti : List KontoRekord) (A B : List Line) :
    rapport konti (PicX.spaces 40) ((A ++ B).map (PicX.ofLine 211))
        = rapport konti (PicX.spaces 40) (A.map (PicX.ofLine 211))
          ++ rapport konti (PicX.spaces 40) (B.map (PicX.ofLine 211))
      ↔ NothingShows A B := by
  unfold rapport NothingShows
  rw [List.map_append, Residue.emit_append_eq_iff
    (length_kundeLinjer konti) (kundeLinjer_inj konti), List.head?_map]
  cases B with
  | nil => simp
  | cons b B =>
      simp only [List.head?_cons, Option.map_some, Option.some.injEq,
        forall_eq', nextNavn_foldl_eq_iff, lastBlank_iff]

/-- A program that writes the report is independent of earlier customers
exactly when the report is. -/
theorem independent_iff {W : List Line → List Line → Prop}
    (konti : List KontoRekord) {A B : List Line}
    (hW : ∀ kunder out, W kunder out ↔ out = rapport konti (PicX.spaces 40)
      (kunder.map (PicX.ofLine 211))) :
    (∃ a b, W A a ∧ W B b ∧ W (A ++ B) (a ++ b)) ↔ NothingShows A B := by
  rw [← rapport_append_iff konti]
  simp only [hW]
  constructor
  · intro hwrites
    obtain ⟨a, b, rfl, rfl, h⟩ := hwrites
    exact h.symm
  · intro h
    exact ⟨_, _, rfl, rfl, h.symm⟩

theorem independent8_iff (A B K : List Line) :
    Independent8 A B K ↔ NothingShows A B := by
  refine independent_iff (W := fun kunder => Opgave8.Writes kunder K)
    (K.map (PicX.ofLine 52)) fun kunder out => ⟨fun h => ?_, ?_⟩
  · simpa using h.unique (Opgave8.writes_rapport kunder K)
  · rintro rfl
    exact Opgave8.writes_rapport kunder K

theorem independent9_iff {A B K : List Line} (hlen : K.length ≤ 50) :
    Independent9 A B K ↔ NothingShows A B := by
  refine independent_iff (W := fun kunder => Opgave9.Writes kunder K)
    (K.map (PicX.ofLine 52)) fun kunder out => ⟨fun h => ?_, ?_⟩
  · simpa using h.unique (Opgave9.writes_rapport hlen)
  · rintro rfl
    exact Opgave9.writes_rapport hlen

-- ========================================================= the two reports

/-- What is written for a customer depends on that customer and the
accounts exactly when nothing of the earlier names shows behind the
name; so in both programs. -/
theorem independent8_and_9_iff (A B K : List Line) :
    (Independent8 A B K ↔ NothingShows A B)
      ∧ (K.length ≤ 50 → (Independent9 A B K ↔ NothingShows A B)) :=
  ⟨independent8_iff A B K, independent9_iff⟩

/-- A customer line up to the names. -/
def kundeLine (kundeId fornavn efternavn : String) : Line :=
  Blank.fit ' ' 10 kundeId.toList ++ Blank.fit ' ' 20 fornavn.toList
    ++ Blank.fit ' ' 20 efternavn.toList

/-- Two customers of the sample file: the end of the first name shows in
"Anna Jensenlsen". -/
theorem not_independent_annaJensen :
    ¬ Independent8 [kundeLine "K123456789" "Michael" "Nielsen"]
        [kundeLine "K987654321" "Anna" "Jensen"] []
      ∧ ¬ Independent9 [kundeLine "K123456789" "Michael" "Nielsen"]
        [kundeLine "K987654321" "Anna" "Jensen"] [] := by
  have hshows : ¬ NothingShows [kundeLine "K123456789" "Michael" "Nielsen"]
      [kundeLine "K987654321" "Anna" "Jensen"] := by
    intro h
    have := h _ rfl 11 (by decide) (by decide) [] _ [] rfl (by decide)
      nofun
    revert this
    decide
  exact ⟨fun h => hshows ((independent8_iff _ _ _).mp h),
    fun h => hshows ((independent9_iff (by simp)).mp h)⟩

end CobolExercises.Solutions
