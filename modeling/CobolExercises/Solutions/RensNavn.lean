/-
The cleaning loop of the reference solutions 3, 4 and 5.

# One loop, four copies

The loop stands once in `Opgave3` and `Opgave4` and twice in `Opgave5`,
on another FULDT-NAVN and RENS-FULDT-NAVN each time but on the same
indexes and characters. It sets all of them first, so it is described
from any state (`rens`); in `Opgave5` the second copy starts from what
the first one leaves.

`near` is what lies in storage around FULDT-NAVN. `reads`, `writes` and
`turns` record the positions the loop uses and IX and IX2 behind the IF
of every iteration, where IX2 is at its largest; no statement reads
them.

# What the loop computes

IX runs over the name, and what it has passed is squeezed at the front
of RENS-FULDT-NAVN (`RensInv`): IX2 is the number of characters kept, so
it cannot overtake IX. At the end that is the collapsed name
(`RensInv.cleans`), which has nothing left to collapse.

# What the programs show

They string both names whole, so all their words are displayed when the
last name leaves its last byte blank (`rens_fuldtNavn_settles`).
-/
import CobolExercises.Field
import CobolExercises.Lib.Runs

namespace CobolExercises.Solutions

open Lib

-- =========================================================== the program

/-- The working storage of the loop. -/
structure Rens where
  ix : Pic9 2
  ix2 : Pic9 2
  currentChar : Char
  previousChar : Char
  rensFuldtNavn : PicX 40
  reads : List Nat
  writes : List Nat
  turns : List (Pic9 2 × Pic9 2)

/-- The VALUE clauses. -/
def Rens.initial : Rens where
  ix := 1
  ix2 := 0
  currentChar := ' '
  previousChar := ' '
  rensFuldtNavn := PicX.spaces 40
  reads := []
  writes := []
  turns := []

/-- `MOVE FULDT-NAVN(IX:1) TO CURRENT-CHAR`. -/
def Rens.fetch (near : Nat → Char) (fuldtNavn : PicX 40) (s : Rens) : Rens :=
  { s with
    currentChar := fuldtNavn.charAt near s.ix.val
    reads := s.reads ++ [s.ix.val] }

/-- `ADD 1 TO IX2`, `MOVE CURRENT-CHAR TO RENS-FULDT-NAVN(IX2:1)`. -/
def Rens.keep (s : Rens) : Rens :=
  let ix2 := s.ix2 + 1
  { s with
    ix2 := ix2
    rensFuldtNavn := s.rensFuldtNavn.setChar ix2.val s.currentChar
    writes := s.writes ++ [ix2.val] }

/-- `MOVE CURRENT-CHAR TO PREVIOUS-CHAR` and the `BY 1` of the loop. -/
def Rens.advance (s : Rens) : Rens :=
  { s with
    turns := s.turns ++ [(s.ix, s.ix2)]
    previousChar := s.currentChar
    ix := s.ix + 1 }

/-- One iteration of the loop. -/
def rensBody (near : Nat → Char) (fuldtNavn : PicX 40) (s : Rens) :
    Exec Rens :=
  let s := s.fetch near fuldtNavn
  let s :=
    if s.currentChar ≠ ' ' ∨ s.previousChar ≠ ' ' then s.keep else s
  .ok s.advance

/-- What the four MOVEs and `VARYING IX FROM 1` set. -/
def Rens.start (s : Rens) : Rens :=
  { s with
    rensFuldtNavn := PicX.spaces 40
    ix := 1
    ix2 := 0
    previousChar := ' '
    reads := []
    writes := []
    turns := [] }

/-- The MOVEs and the loop `UNTIL IX > LENGTH OF FULDT-NAVN`. -/
def rens (near : Nat → Char) (fuldtNavn : PicX 40) (fuel : Nat)
    (s : Rens) : Exec Rens :=
  loopUntil (fun s => decide (40 < s.ix.val)) (rensBody near fuldtNavn)
    fuel s.start

/-- `STRING FORNAVN … " " … EFTERNAVN DELIMITED BY SIZE INTO
FULDT-NAVN`. -/
def fuldtNavn (fornavn efternavn : PicX 20) : PicX 40 :=
  (PicX.spaces 40).string [fornavn.chars, " ".toList, efternavn.chars]

/-- RENS-FULDT-NAVN as `Opgave3` displays it. -/
def Opgave3.rensFuldtNavn (near : Nat → Char) (fornavn efternavn : PicX 20)
    (fuel : Nat) : Exec (PicX 40) := do
  let s ← rens near (fuldtNavn fornavn efternavn) fuel Rens.initial
  pure s.rensFuldtNavn

/-- RENS-FULDT-NAVN as `Opgave4` displays it; the names are members of
KUNDEOPL. -/
def Opgave4.rensFuldtNavn (near : Nat → Char) (fornavn efternavn : PicX 20)
    (fuel : Nat) : Exec (PicX 40) := do
  let s ← rens near (fuldtNavn fornavn efternavn) fuel Rens.initial
  pure s.rensFuldtNavn

/-- RENS-FULDT-NAVN-01 and RENS-FULDT-NAVN-02 as `Opgave5` displays
them. -/
def Opgave5.rensFuldtNavn (near01 near02 : Nat → Char)
    (fornavn01 efternavn01 fornavn02 efternavn02 : PicX 20) (fuel : Nat) :
    Exec (PicX 40 × PicX 40) := do
  let s ← rens near01 (fuldtNavn fornavn01 efternavn01) fuel Rens.initial
  let t ← rens near02 (fuldtNavn fornavn02 efternavn02) fuel
    { s with rensFuldtNavn := PicX.spaces 40 }
  pure (s.rensFuldtNavn, t.rensFuldtNavn)

-- ========================================================= a cleaned name

/-- The loop on `fuldtNavn` from `s` ends in `t` with the name's runs of
spaces collapsed, IX2 never ahead of IX and every position inside the
fields. -/
structure Cleans (near : Nat → Char) (fuldtNavn : PicX 40) (s t : Rens) :
    Prop where
  ends : Settles (fun fuel => rens near fuldtNavn fuel s) (.ok t)
  clean : t.rensFuldtNavn.chars = Runs.collapse ' ' fuldtNavn.chars
    ++ List.replicate
      (40 - (Runs.collapse ' ' fuldtNavn.chars).length) ' '
  turns : t.turns.length = 40 ∧ ∀ turn ∈ t.turns, turn.2 ≤ turn.1
  reads : ∀ i ∈ t.reads, 1 ≤ i ∧ i ≤ 40
  writes : ∀ i ∈ t.writes, 1 ≤ i ∧ i ≤ 40

-- =============================================================== the loop

/-- The characters kept of the first `i`. -/
def kept (fuldtNavn : PicX 40) (i : Nat) : List Char :=
  Words.squeeze ' ' ' ' (fuldtNavn.chars.take i)

theorem length_kept_le (fuldtNavn : PicX 40) (i : Nat) :
    (kept fuldtNavn i).length ≤ i :=
  (Words.length_squeeze_le ..).trans (List.length_take_le ..)

/-- The next character is kept unless it and the one before it are
spaces. -/
theorem kept_succ (fuldtNavn : PicX 40) {i : Nat} (hi : i < 40) :
    kept fuldtNavn (i + 1) = kept fuldtNavn i
      ++ if fuldtNavn.chars.getD i ' ' ≠ ' '
          ∨ (fuldtNavn.chars.take i).getLastD ' ' ≠ ' '
        then [fuldtNavn.chars.getD i ' '] else [] := by
  rw [kept, kept, PicX.take_succ_chars hi, Words.squeeze_concat]

/-- RENS-FULDT-NAVN holds the characters `l`, written one after the
other. -/
structure Rens.Holds (l : List Char) (s : Rens) : Prop where
  ix2 : s.ix2.val = l.length
  clean : s.rensFuldtNavn.chars = Blank.fit ' ' 40 l
  writes : s.writes = List.range' 1 l.length

/-- Keeping a character writes it behind the others. -/
theorem Rens.Holds.keep {l : List Char} {s : Rens} (h : s.Holds l)
    (hlen : l.length < 40) : s.keep.Holds (l ++ [s.currentChar]) := by
  have hix2 : (s.ix2 + 1).val = l.length + 1 := by
    rw [Pic9.val_add_one (by omega) _ (by rw [h.ix2]; omega), h.ix2]
  refine ⟨?_, ?_, ?_⟩
  · rw [List.length_append]
    exact hix2
  · show (s.rensFuldtNavn.setChar (s.ix2 + 1).val s.currentChar).chars = _
    rw [hix2, PicX.chars_setChar_of_fit h.clean hlen]
  · show s.writes ++ [(s.ix2 + 1).val] = _
    rw [hix2, h.writes, List.length_append, List.length_singleton,
      List.range'_1_concat, Nat.add_comm 1]

/-- Behind iteration `i` the first `i` characters are squeezed at the
front of RENS-FULDT-NAVN, and every position up to IX has been read. -/
structure RensInv (fuldtNavn : PicX 40) (i : Nat) (s : Rens) : Prop where
  ix : s.ix.val = i + 1
  previous : s.previousChar = (fuldtNavn.chars.take i).getLastD ' '
  holds : s.Holds (kept fuldtNavn i)
  reads : s.reads = List.range' 1 i
  turns : s.turns.length = i ∧ ∀ turn ∈ s.turns, turn.2 ≤ turn.1

theorem RensInv.start (fuldtNavn : PicX 40) (s : Rens) :
    RensInv fuldtNavn 0 s.start :=
  ⟨rfl, rfl, ⟨rfl, rfl, rfl⟩, rfl, rfl, nofun⟩

/-- What follows the IF, once the characters kept are the right ones. -/
theorem RensInv.advance {fuldtNavn : PicX 40} {i : Nat} {s t : Rens}
    (h : RensInv fuldtNavn i s) (hi : i < 40) (hix : t.ix = s.ix)
    (hcurrent : t.currentChar = fuldtNavn.chars.getD i ' ')
    (hreads : t.reads = s.reads ++ [s.ix.val]) (hturns : t.turns = s.turns)
    (hholds : t.Holds (kept fuldtNavn (i + 1))) :
    RensInv fuldtNavn (i + 1) t.advance := by
  refine ⟨?_, ?_, ⟨hholds.ix2, hholds.clean, hholds.writes⟩, ?_, ?_, ?_⟩
  · show (t.ix + 1).val = _
    rw [hix, Pic9.val_add_one (by omega) _ (by rw [h.ix]; omega), h.ix]
  · show t.currentChar = _
    rw [hcurrent, PicX.take_succ_chars hi, List.getLastD_concat]
  · show t.reads = _
    rw [hreads, h.reads, h.ix, List.range'_1_concat, Nat.add_comm 1]
  · show (t.turns ++ [(t.ix, t.ix2)]).length = _
    rw [hturns, List.length_append, h.turns.1, List.length_singleton]
  · show ∀ turn ∈ t.turns ++ [(t.ix, t.ix2)], turn.2 ≤ turn.1
    rw [hturns]
    refine List.forall_mem_append.mpr ⟨h.turns.2, fun turn hturn => ?_⟩
    rw [List.mem_singleton] at hturn
    subst hturn
    -- no more characters are kept than were read
    have hle := length_kept_le fuldtNavn (i + 1)
    rw [Fin.le_def]
    show t.ix2.val ≤ t.ix.val
    rw [hholds.ix2, hix, h.ix]
    exact hle

/-- One iteration squeezes one more character. -/
theorem RensInv.step (near : Nat → Char) {fuldtNavn : PicX 40} {i : Nat}
    {s : Rens} (h : RensInv fuldtNavn i s) (hi : i < 40) :
    ∃ s', rensBody near fuldtNavn s = .ok s'
      ∧ RensInv fuldtNavn (i + 1) s' := by
  have hlen := length_kept_le fuldtNavn i
  have hcurrent : (s.fetch near fuldtNavn).currentChar
      = fuldtNavn.chars.getD i ' ' := by
    show fuldtNavn.charAt near s.ix.val = _
    rw [h.ix, PicX.charAt_succ hi]
  have hprevious : (s.fetch near fuldtNavn).previousChar
      = (fuldtNavn.chars.take i).getLastD ' ' := h.previous
  have hholds : (s.fetch near fuldtNavn).Holds (kept fuldtNavn i) :=
    ⟨h.holds.ix2, h.holds.clean, h.holds.writes⟩
  have hnext := kept_succ fuldtNavn hi
  rw [← hcurrent, ← hprevious] at hnext
  refine ⟨_, rfl, ?_⟩
  split at hnext
  case isTrue hkeep =>
      rw [if_pos hkeep]
      apply h.advance (t := (s.fetch near fuldtNavn).keep) hi rfl hcurrent
        rfl rfl
      rw [hnext]
      exact hholds.keep (by omega)
  case isFalse hdrop =>
      rw [if_neg hdrop]
      rw [List.append_nil] at hnext
      apply h.advance (t := s.fetch near fuldtNavn) hi rfl hcurrent rfl rfl
      rw [hnext]
      exact hholds

/-- The loop ends, having squeezed all 40 characters. -/
theorem rens_settles (near : Nat → Char) (fuldtNavn : PicX 40)
    (s : Rens) :
    ∃ t, Settles (fun fuel => rens near fuldtNavn fuel s) (.ok t)
      ∧ RensInv fuldtNavn 40 t := by
  have hloop := LoopSettles.counting
    (fun s : Rens => decide (40 < s.ix.val))
    (fun _ => rensBody near fuldtNavn) (P := RensInv fuldtNavn) 40 ?_ ?_
    (.start fuldtNavn s)
  · obtain ⟨t, ht, h⟩ := hloop
    exact ⟨t, ht.settles, h⟩
  · intro t h
    simp [h.ix]
  · intro i t hi h
    obtain ⟨t', ht', h'⟩ := h.step near hi
    refine ⟨?_, t', ?_, h'⟩
    · rw [h.ix, decide_eq_false_iff_not]
      omega
    · simp only [ht']
      exact .const _

-- ============================================================== its result

/-- Behind the loop the squeezed name is padded. -/
theorem RensInv.chars_eq {fuldtNavn : PicX 40} {t : Rens}
    (h : RensInv fuldtNavn 40 t) :
    t.rensFuldtNavn.chars
      = Blank.fit ' ' 40 (Words.squeeze ' ' ' ' fuldtNavn.chars) := by
  rw [h.holds.clean, kept, List.take_of_length_le (by simp)]

/-- Behind the loop the name is collapsed. -/
theorem RensInv.cleans {near : Nat → Char} {fuldtNavn : PicX 40}
    {s t : Rens} (h : RensInv fuldtNavn 40 t)
    (ht : Settles (fun fuel => rens near fuldtNavn fuel s) (.ok t)) :
    Cleans near fuldtNavn s t := by
  refine ⟨ht, ?_, h.turns, ?_, ?_⟩
  · rw [h.chars_eq, ← Runs.squeeze_eq_collapse, Blank.fit,
      List.take_of_length_le]
    exact (Words.length_squeeze_le ..).trans (by simp)
  · intro i hi
    rw [h.reads, List.mem_range'_1] at hi
    omega
  · intro i hi
    have hlen := length_kept_le fuldtNavn 40
    rw [h.holds.writes, List.mem_range'_1] at hi
    omega

/-- The loop collapses every name it is run on, inside the fields, and a
second run on the result changes nothing. -/
theorem rens_cleans (near : Nat → Char) (fuldtNavn : PicX 40) (s : Rens) :
    ∃ t, Cleans near fuldtNavn s t
      ∧ ∀ near', ∃ u, Cleans near' t.rensFuldtNavn t u
        ∧ u.rensFuldtNavn = t.rensFuldtNavn := by
  obtain ⟨t, ht, hinv⟩ := rens_settles near fuldtNavn s
  refine ⟨t, hinv.cleans ht, fun near' => ?_⟩
  obtain ⟨u, hu, hinv'⟩ := rens_settles near' t.rensFuldtNavn t
  refine ⟨u, hinv'.cleans hu, ?_⟩
  rw [PicX.ext_iff, hinv'.chars_eq, hinv.chars_eq,
    Words.fit_squeeze_fit_squeeze (by simp)]

-- =========================================================== the programs

/-- The words of both names with one space between them. -/
def navnTekst (fornavn efternavn : PicX 20) : Line :=
  Words.unwords ' ' (Words.words ' ' fornavn.chars
    ++ Words.words ' ' efternavn.chars)

/-- FULDT-NAVN has all the words of the names, the last byte of EFTERNAVN
being blank: that byte does not fit. -/
theorem words_fuldtNavn {fornavn efternavn : PicX 20}
    (h : efternavn.chars.getD 19 ' ' = ' ') :
    Words.words ' ' (fuldtNavn fornavn efternavn).chars
      = Words.words ' ' fornavn.chars
        ++ Words.words ' ' efternavn.chars := by
  have hcut := PicX.joined_eq_chars_string_concat fornavn efternavn
  rw [h] at hcut
  rw [← Words.words_append_cons, hcut, Words.words_concat_blank]
  rfl

/-- The loop on the two names leaves all their words. -/
theorem rens_fuldtNavn_settles (near : Nat → Char) (fornavn : PicX 20)
    {efternavn : PicX 20} (h : efternavn.chars.getD 19 ' ' = ' ')
    (s : Rens) :
    ∃ t, Settles (fun fuel => rens near (fuldtNavn fornavn efternavn)
        fuel s) (.ok t)
      ∧ t.rensFuldtNavn = PicX.ofLine 40 (navnTekst fornavn efternavn) := by
  obtain ⟨t, ht, hinv⟩ := rens_settles near (fuldtNavn fornavn efternavn) s
  refine ⟨t, ht, ?_⟩
  have hlen : (Words.squeeze ' ' ' '
      (fuldtNavn fornavn efternavn).chars).length ≤ 40 :=
    (Words.length_squeeze_le ..).trans (by simp)
  have htext : navnTekst fornavn efternavn = Blank.trimEnd ' '
      (Words.squeeze ' ' ' ' (fuldtNavn fornavn efternavn).chars) := by
    rw [navnTekst, ← words_fuldtNavn h, ← Words.trimEnd_squeeze]
  rw [PicX.ext_iff, hinv.chars_eq, PicX.chars_ofLine, htext,
    Blank.fit_eq_fit_iff hlen ((Blank.length_trimEnd_le ..).trans hlen),
    Blank.trimEnd_trimEnd]

/-- Solution 3 displays all the words of the two names. -/
theorem Opgave3.rensFuldtNavn_settles (near : Nat → Char)
    {fornavn efternavn : PicX 20}
    (h : efternavn.chars.getD 19 ' ' = ' ') :
    Settles (Opgave3.rensFuldtNavn near fornavn efternavn)
      (.ok (PicX.ofLine 40 (navnTekst fornavn efternavn))) := by
  obtain ⟨t, ht, hnavn⟩ :=
    rens_fuldtNavn_settles near fornavn h Rens.initial
  refine .bind ht ?_
  rw [hnavn]
  exact .const _

/-- So does solution 4. -/
theorem Opgave4.rensFuldtNavn_settles (near : Nat → Char)
    {fornavn efternavn : PicX 20}
    (h : efternavn.chars.getD 19 ' ' = ' ') :
    Settles (Opgave4.rensFuldtNavn near fornavn efternavn)
      (.ok (PicX.ofLine 40 (navnTekst fornavn efternavn))) :=
  Opgave3.rensFuldtNavn_settles near h

/-- Solution 5 does for both customers: what the first loop leaves in the
shared items does not reach the second. -/
theorem Opgave5.rensFuldtNavn_settles (near01 near02 : Nat → Char)
    {fornavn01 efternavn01 fornavn02 efternavn02 : PicX 20}
    (h01 : efternavn01.chars.getD 19 ' ' = ' ')
    (h02 : efternavn02.chars.getD 19 ' ' = ' ') :
    Settles (Opgave5.rensFuldtNavn near01 near02 fornavn01 efternavn01
        fornavn02 efternavn02)
      (.ok (PicX.ofLine 40 (navnTekst fornavn01 efternavn01),
        PicX.ofLine 40 (navnTekst fornavn02 efternavn02))) := by
  obtain ⟨t, ht, hnavn01⟩ :=
    rens_fuldtNavn_settles near01 fornavn01 h01 Rens.initial
  obtain ⟨u, hu, hnavn02⟩ :=
    rens_fuldtNavn_settles near02 fornavn02 h02
      { t with rensFuldtNavn := PicX.spaces 40 }
  refine .bind ht (.bind hu ?_)
  rw [hnavn01, hnavn02]
  exact .const _

end CobolExercises.Solutions
