/-
Opgave 3: the joined name and the loop that cleans it of spaces.

# The program

The three indexes have no VALUE clause and start at zero, over fields
whose positions count from one. `near` is whatever lies in storage around
`full-name`: the first iteration reads `full-name(0:1)`. A write to
`clean-name(0:1)` goes to the byte in front of `clean-name` and is lost.
`reads` and `writes` record the positions the loop uses; no statement
reads them.

The indexes are signed, `PIC S9(2)`, but are only counted up from zero,
so they take the values of an unsigned item.

# What the loop computes

It squeezes the 41 bytes from position 0 on, and what it writes at
position 0 is lost (`cleaning_settles`): with a letter in front of
`full-name` that letter is lost and the name survives, with a space
there the first letter of the name is lost.
-/
import CobolExercises.Field
import CobolExercises.Lib.Words

namespace CobolExercises.Opgave.Opgave3

open Lib

-- =========================================================== the program

/-- The indexes and the output of the cleaning loop. -/
structure State where
  characterIndex : Pic9 2
  previousCharacterIndex : Pic9 2
  cleanNameIndex : Pic9 2
  cleanName : PicX 40
  reads : List Nat
  writes : List Nat

/-- Working storage without VALUE: numbers zero, texts blank; then
`from 0`. -/
def initial : State where
  characterIndex := 0
  previousCharacterIndex := 0
  cleanNameIndex := 0
  cleanName := PicX.spaces 40
  reads := []
  writes := []

/-- `STRING first-name … " " … last-name … into full-name`. -/
def fullName (firstName lastName : PicX 20) : PicX 40 :=
  (PicX.spaces 40).string [firstName.chars, " ".toList, lastName.chars]

/-- One iteration of the loop, its `by 1` included. -/
def cleaningBody (near : Nat → Char) (full : PicX 40) (s : State) :
    Exec State :=
  let i := s.characterIndex.val
  let p := s.previousCharacterIndex.val
  let o := s.cleanNameIndex.val
  let s :=
    if full.charAt near i ≠ ' ' ∨ full.charAt near p ≠ ' ' then
      { s with
        cleanName := s.cleanName.setChar o (full.charAt near i)
        writes := s.writes ++ [o]
        cleanNameIndex := s.cleanNameIndex + 1 }
    else s
  .ok { s with
    reads := s.reads ++ [i, p]
    previousCharacterIndex := s.characterIndex
    characterIndex := s.characterIndex + 1 }

/-- The STRING and the loop `until character-index > length of
full-name`. -/
def cleaning (near : Nat → Char) (firstName lastName : PicX 20)
    (fuel : Nat) : Exec State :=
  loopUntil (fun s => decide (40 < s.characterIndex.val))
    (cleaningBody near (fullName firstName lastName)) fuel initial

-- ========================================================= a cleaned name

/-- The words of the two names, in order. -/
def nameWords (firstName lastName : PicX 20) : List (List Char) :=
  Words.words ' ' firstName.chars ++ Words.words ' ' lastName.chars

/-- The words with one space between them. -/
def cleanText (firstName lastName : PicX 20) : Line :=
  Words.unwords ' ' (nameWords firstName lastName)

/-- The loop ends with the words of the two names in `clean-name`. -/
def TextCleaned (near : Nat → Char) (firstName lastName : PicX 20) : Prop :=
  ∃ s, Settles (cleaning near firstName lastName) (.ok s)
    ∧ s.cleanName = PicX.ofLine 40 (cleanText firstName lastName)

/-- The loop ends, with every position it has used inside the fields. -/
def PositionsInside (near : Nat → Char) (firstName lastName : PicX 20) :
    Prop :=
  ∃ s, Settles (cleaning near firstName lastName) (.ok s)
    ∧ (∀ i ∈ s.reads, 1 ≤ i ∧ i ≤ 40) ∧ ∀ i ∈ s.writes, 1 ≤ i ∧ i ≤ 40

/-- The name is cleaned inside the fields whenever its words fit. -/
def Cleaned (near : Nat → Char) (firstName lastName : PicX 20) : Prop :=
  ((cleanText firstName lastName).length ≤ 40 →
    TextCleaned near firstName lastName)
  ∧ PositionsInside near firstName lastName

-- =============================================================== the loop

/-- The bytes from position 0 on. -/
def bytes (near : Nat → Char) (full : PicX 40) : List Char :=
  near 0 :: full.chars

theorem charAt_eq_getD {near : Nat → Char} {full : PicX 40} {i : Nat}
    (h : i ≤ 40) : full.charAt near i = (bytes near full).getD i ' ' := by
  cases i with
  | zero => rfl
  | succ i => rw [PicX.charAt_succ h, bytes, List.getD_cons_succ]

/-- Before iteration `i` the first `i` bytes have been squeezed, and all
but the first of the characters kept are in `clean-name`. -/
structure CleanInv (near : Nat → Char) (full : PicX 40) (i : Nat)
    (s : State) : Prop where
  index : s.characterIndex.val = i
  previous : s.previousCharacterIndex.val = i - 1
  output : s.cleanNameIndex.val
    = (Words.squeeze ' ' ' ' ((bytes near full).take i)).length
  clean : s.cleanName.chars = Blank.fit ' ' 40
    ((Words.squeeze ' ' ' ' ((bytes near full).take i)).drop 1)
  read : 0 < i → 0 ∈ s.reads
  readsLe : ∀ j ∈ s.reads, j ≤ 40
  writesLe : ∀ j ∈ s.writes, j ≤ 40

theorem CleanInv.initial (near : Nat → Char) (full : PicX 40) :
    CleanInv near full 0 initial :=
  ⟨rfl, rfl, rfl, rfl, nofun, nofun, nofun⟩

theorem length_bytes (near : Nat → Char) (full : PicX 40) :
    (bytes near full).length = 41 := by
  simp [bytes]

/-- The test of iteration `i` is the scan's: the byte in front of the
first one counts as a space. -/
theorem test_iff {near : Nat → Char} {full : PicX 40} {i : Nat}
    (h : i ≤ 40) :
    (full.charAt near i ≠ ' ' ∨ full.charAt near (i - 1) ≠ ' ')
      ↔ ((bytes near full).getD i ' ' ≠ ' '
        ∨ ((bytes near full).take i).getLastD ' ' ≠ ' ') := by
  rw [charAt_eq_getD h, charAt_eq_getD (by omega)]
  cases i with
  | zero => simp
  | succ i =>
      have hlt : i < (bytes near full).length := by
        rw [length_bytes]
        omega
      rw [List.take_succ_eq_append_getElem hlt, List.getLastD_concat,
        Nat.add_sub_cancel, List.getD_eq_getElem _ _ hlt]

/-- The scan's next step, in the words of the program. -/
theorem squeeze_take_succ (near : Nat → Char) (full : PicX 40) {i : Nat}
    (h : i ≤ 40) :
    Words.squeeze ' ' ' ' ((bytes near full).take (i + 1))
      = Words.squeeze ' ' ' ' ((bytes near full).take i)
        ++ if full.charAt near i ≠ ' ' ∨ full.charAt near (i - 1) ≠ ' '
          then [full.charAt near i] else [] := by
  have hlt : i < (bytes near full).length := by
    rw [length_bytes]
    omega
  rw [List.take_succ_eq_append_getElem hlt, Words.squeeze_concat,
    ← List.getD_eq_getElem _ ' ' hlt]
  simp only [test_iff h]
  rw [charAt_eq_getD h]

theorem length_squeeze_take_le (near : Nat → Char) (full : PicX 40)
    {i : Nat} (h : i ≤ 41) :
    (Words.squeeze ' ' ' ' ((bytes near full).take i)).length ≤ i := by
  have := Words.length_squeeze_le ' ' ' ' ((bytes near full).take i)
  rw [List.length_take, length_bytes] at this
  omega

/-- The character kept as number `kept.length` goes to that position; at
position 0 it is lost. -/
theorem setChar_fit {clean : PicX 40} {kept : List Char} {c : Char}
    (hclean : clean.chars = Blank.fit ' ' 40 (kept.drop 1))
    (hlen : kept.length ≤ 40) :
    (clean.setChar kept.length c).chars
      = Blank.fit ' ' 40 ((kept ++ [c]).drop 1) := by
  cases kept with
  | nil => exact hclean
  | cons d kept =>
      rw [List.length_cons] at hlen ⊢
      rw [List.drop_one, List.tail_cons] at hclean
      rw [PicX.chars_setChar_of_fit hclean (by omega)]
      rfl

/-- One iteration squeezes one more byte. -/
theorem CleanInv.step {near : Nat → Char} {full : PicX 40} {i : Nat}
    {s : State} (h : CleanInv near full i s) (hi : i ≤ 40) :
    ∃ s', cleaningBody near full s = .ok s'
      ∧ CleanInv near full (i + 1) s' := by
  have hlen := length_squeeze_take_le near full
    (i := i) (by omega)
  have hnext := squeeze_take_succ near full hi
  have hcount : (s.characterIndex + 1).val = i + 1 := by
    rw [Pic9.val_add_one (by omega) _ (by rw [h.index]; omega), h.index]
  have hread : 0 ∈ s.reads ++ [i, i - 1] := by
    rcases Nat.eq_zero_or_pos i with rfl | hpos
    · simp
    · simp [h.read hpos]
  have hreads : ∀ j ∈ s.reads ++ [i, i - 1], j ≤ 40 := by
    refine List.forall_mem_append.mpr ⟨h.readsLe, fun j hj => ?_⟩
    simp at hj
    omega
  unfold cleaningBody
  rw [h.index, h.previous, h.output]
  refine ⟨_, rfl, ?_⟩
  split at hnext
  case isTrue htest =>
      rw [if_pos htest]
      refine ⟨hcount, h.index, ?_, ?_, fun _ => hread, hreads, ?_⟩
      · show (s.cleanNameIndex + 1).val = _
        rw [Pic9.val_add_one (by omega) _ (by rw [h.output]; omega),
          h.output, hnext, List.length_append, List.length_singleton]
      · rw [hnext]
        exact setChar_fit h.clean (by omega)
      · refine List.forall_mem_append.mpr ⟨h.writesLe, fun j hj => ?_⟩
        rw [List.mem_singleton] at hj
        omega
  case isFalse htest =>
      rw [if_neg htest]
      rw [List.append_nil] at hnext
      refine ⟨hcount, h.index, ?_, ?_, fun _ => hread, hreads,
        h.writesLe⟩
      · rw [hnext]
        exact h.output
      · rw [hnext]
        exact h.clean

/-- The loop ends, having squeezed all 41 bytes. -/
theorem cleaning_settles (near : Nat → Char) (firstName lastName : PicX 20) :
    ∃ s, Settles (cleaning near firstName lastName) (.ok s)
      ∧ CleanInv near (fullName firstName lastName) 41 s := by
  have hloop := LoopSettles.counting
    (fun s : State => decide (40 < s.characterIndex.val))
    (fun _ => cleaningBody near (fullName firstName lastName))
    (P := CleanInv near (fullName firstName lastName)) 41 ?_ ?_
    (.initial near _)
  · obtain ⟨s, hs, h⟩ := hloop
    exact ⟨s, hs.settles, h⟩
  · intro s h
    simp [h.index]
  · intro i s hi h
    obtain ⟨s', hs', h'⟩ := h.step (by omega)
    refine ⟨?_, s', ?_, h'⟩
    · rw [h.index, decide_eq_false_iff_not]
      omega
    · simp only [hs']
      exact .const _

-- ============================================================= the text

/-- The 41 bytes the STRING sends to the 40 of `full-name`. -/
def joined (firstName lastName : PicX 20) : Line :=
  firstName.chars ++ ' ' :: lastName.chars

/-- The last byte of the last name does not fit. -/
theorem joined_eq (firstName lastName : PicX 20) :
    joined firstName lastName = (fullName firstName lastName).chars
      ++ [lastName.chars.getD 19 ' '] :=
  PicX.joined_eq_chars_string_concat firstName lastName

/-- The text to come is the squeezed join, trimmed. -/
theorem cleanText_eq (firstName lastName : PicX 20) :
    cleanText firstName lastName = Blank.trimEnd ' '
      (Words.squeeze ' ' ' ' (joined firstName lastName)) := by
  rw [Words.trimEnd_squeeze, joined, Words.words_append_cons]
  rfl

/-- With a byte `q` in front and a byte `z` cut off, no letter is lost
only if `q` is a letter and `z` is none. -/
theorem letters_kept {q z : Char} {full : List Char}
    (h : Blank.trimEnd ' ' ((Words.squeeze ' ' ' ' (q :: full)).drop 1)
      = Blank.trimEnd ' ' (Words.squeeze ' ' ' ' (full ++ [z])))
    (hsome : Words.letters ' ' (full ++ [z]) ≠ 0) : q ≠ ' ' ∧ z = ' ' := by
  have hcount := congrArg (Words.letters ' ') h
  rw [Words.letters_trimEnd, Words.letters_trimEnd,
    Words.letters_drop_one_squeeze, Words.letters_squeeze,
    Words.letters_cons, Words.letters_append] at hcount
  rw [Words.letters_append] at hsome
  have hz : Words.letters ' ' [z] = if z ≠ ' ' then 1 else 0 := by
    simp [Words.letters]
  rw [hz] at hcount hsome
  by_cases hq : q = ' '
  · rw [if_neg (by simpa using hq)] at hcount
    generalize (if z ≠ ' ' then 1 else 0) = k at hcount hsome
    omega
  · refine ⟨hq, ?_⟩
    by_contra hne
    rw [if_pos hq, if_pos hne] at hcount
    omega

/-- A text that starts with a blank cannot come out right behind a
letter: that blank is kept. -/
theorem head_kept {q : Char} {full : List Char} (hq : q ≠ ' ')
    (h : Blank.trimEnd ' ' ((Words.squeeze ' ' ' ' (q :: full)).drop 1)
      = Blank.trimEnd ' ' (Words.squeeze ' ' ' ' full))
    (hsome : Words.letters ' ' full ≠ 0) : full.getD 0 ' ' ≠ ' ' := by
  intro hhead
  rw [Words.squeeze_cons_of_ne _ _ hq, List.drop_one, List.tail_cons] at h
  cases full with
  | nil => exact hsome rfl
  | cons c full =>
      rw [List.getD_cons_zero] at hhead
      subst hhead
      rw [Words.squeeze_cons_blank_of_ne _ hq, Words.squeeze_cons_blank,
        Blank.trimEnd_cons, if_neg] at h
      · have := congrArg List.length h
        simp at this
      · intro hgone
        obtain ⟨-, hnil⟩ := hgone
        rw [Words.trimEnd_eq_nil_iff_letters, Words.letters_squeeze] at hnil
        rw [Words.letters_cons, hnil] at hsome
        exact hsome rfl

/-- What is left of the squeezed text is right in two cases: there is no
letter at all, or `q` is one, the text starts with one, and `z` is
none. -/
theorem trimEnd_drop_squeeze_iff (q z : Char) (full : List Char) :
    Blank.trimEnd ' ' ((Words.squeeze ' ' ' ' (q :: full)).drop 1)
        = Blank.trimEnd ' ' (Words.squeeze ' ' ' ' (full ++ [z]))
      ↔ Words.letters ' ' (full ++ [z]) = 0
        ∨ (q ≠ ' ' ∧ full.getD 0 ' ' ≠ ' ' ∧ z = ' ') := by
  constructor
  · intro h
    by_cases hsome : Words.letters ' ' (full ++ [z]) = 0
    · exact .inl hsome
    · obtain ⟨hq, rfl⟩ := letters_kept h hsome
      rw [Words.trimEnd_squeeze, Words.words_concat_blank,
        ← Words.trimEnd_squeeze] at h
      have hfull : Words.letters ' ' full ≠ 0 := by
        intro hnil
        rw [Words.letters_append, hnil] at hsome
        exact hsome rfl
      exact .inr ⟨hq, head_kept hq h hfull, rfl⟩
  · rintro (hnone | ⟨hq, hhead, rfl⟩)
    · have hright : Blank.trimEnd ' '
          (Words.squeeze ' ' ' ' (full ++ [z])) = [] := by
        rw [Words.trimEnd_eq_nil_iff_letters, Words.letters_squeeze, hnone]
      rw [hright, Words.trimEnd_eq_nil_iff_letters,
        Words.letters_drop_one_squeeze, Words.letters_cons]
      rw [Words.letters_append] at hnone
      split <;> omega
    · rw [Words.trimEnd_squeeze _ (full ++ _), Words.words_concat_blank,
        ← Words.trimEnd_squeeze, Words.squeeze_cons_of_ne _ _ hq,
        List.drop_one, List.tail_cons]
      cases full with
      | nil => rfl
      | cons c full =>
          rw [List.getD_cons_zero] at hhead
          rw [Words.squeeze_cons_of_ne _ _ hhead,
            Words.squeeze_cons_of_ne _ _ hhead]

/-- The loop cleans the text exactly when what it leaves trims to it. -/
theorem textCleaned_iff_trimEnd {near : Nat → Char}
    {firstName lastName : PicX 20}
    (hfit : (cleanText firstName lastName).length ≤ 40) :
    TextCleaned near firstName lastName
      ↔ Blank.trimEnd ' ' ((Words.squeeze ' ' ' '
          (near 0 :: (fullName firstName lastName).chars)).drop 1)
        = cleanText firstName lastName := by
  obtain ⟨s, hs, h⟩ := cleaning_settles near firstName lastName
  have hlen : ((Words.squeeze ' ' ' '
      (bytes near (fullName firstName lastName))).drop 1).length ≤ 40 := by
    have := Words.length_squeeze_le ' ' ' '
      (bytes near (fullName firstName lastName))
    rw [length_bytes] at this
    rw [List.length_drop]
    omega
  have hclean := h.clean
  rw [List.take_of_length_le (by simp [length_bytes])] at hclean
  have htext : Blank.trimEnd ' ' (cleanText firstName lastName)
      = cleanText firstName lastName := by
    rw [cleanText_eq, Blank.trimEnd_trimEnd]
  have hiff : s.cleanName = PicX.ofLine 40 (cleanText firstName lastName)
      ↔ Blank.trimEnd ' ' ((Words.squeeze ' ' ' '
          (bytes near (fullName firstName lastName))).drop 1)
        = cleanText firstName lastName := by
    rw [PicX.ext_iff, hclean, PicX.chars_ofLine,
      Blank.fit_eq_fit_iff hlen hfit, htext]
  refine Iff.trans ?_ hiff
  constructor
  · intro hcleaned
    obtain ⟨t, ht, heq⟩ := hcleaned
    obtain rfl : s = t := by
      simpa using hs.unique ht
    exact heq
  · exact fun heq => ⟨s, hs, heq⟩

-- ==================================================== when it is cleaned

/-- Position 0 is read at once. -/
theorem not_positionsInside (near : Nat → Char)
    (firstName lastName : PicX 20) :
    ¬ PositionsInside near firstName lastName := by
  intro hinside
  obtain ⟨s, hs, hreads, -⟩ := hinside
  obtain ⟨t, ht, h⟩ := cleaning_settles near firstName lastName
  obtain rfl : s = t := by
    simpa using hs.unique ht
  have := (hreads 0 (h.read (by omega))).1
  omega

/-- The words survive in two cases only: there are none, or a letter lies
in front of `full-name`, the first name starts with a letter and the last
name leaves its last byte blank. -/
theorem textCleaned_iff {near : Nat → Char} {firstName lastName : PicX 20}
    (hfit : (cleanText firstName lastName).length ≤ 40) :
    TextCleaned near firstName lastName
      ↔ nameWords firstName lastName = []
        ∨ (near 0 ≠ ' ' ∧ firstName.chars.getD 0 ' ' ≠ ' '
          ∧ lastName.chars.getD 19 ' ' = ' ') := by
  have hwords : nameWords firstName lastName
      = Words.words ' ' (joined firstName lastName) := by
    rw [joined, Words.words_append_cons]
    rfl
  have hhead : (fullName firstName lastName).chars.getD 0 ' '
      = firstName.chars.getD 0 ' ' := by
    have hpos : 0 < firstName.chars.length := by simp
    have hjoined : 0 < (fullName firstName lastName).chars.length := by
      simp
    rw [← List.getD_append _ [lastName.chars.getD 19 ' '] _ _ hjoined,
      ← joined_eq, joined, List.getD_append _ _ _ _ hpos]
  rw [textCleaned_iff_trimEnd hfit, cleanText_eq, hwords,
    Words.words_eq_nil_iff, joined_eq, trimEnd_drop_squeeze_iff, hhead]

/-- The name the program runs on, with a space in front of `full-name`:
the text comes out as "ars Hansen". -/
theorem not_cleaned_larsHansen :
    ¬ Cleaned (fun _ => ' ') (PicX.ofLine 20 "Lars".toList)
      (PicX.ofLine 20 "Hansen".toList) := by
  intro hcleaned
  obtain ⟨htext, -⟩ := hcleaned
  have hfit : (cleanText (PicX.ofLine 20 "Lars".toList)
      (PicX.ofLine 20 "Hansen".toList)).length ≤ 40 := by decide
  rcases (textCleaned_iff hfit).mp (htext hfit) with hnone | ⟨hnear, -⟩
  · revert hnone
    decide
  · exact hnear rfl

/-- No run of the loop stays inside the fields, and the text comes out
right only when there is none, or with a letter in front of `full-name`,
a first name that starts with one and a last name with its last byte
blank. -/
theorem not_cleaned (near : Nat → Char) (firstName lastName : PicX 20) :
    ¬ Cleaned near firstName lastName
      ∧ ((cleanText firstName lastName).length ≤ 40 →
        (TextCleaned near firstName lastName
          ↔ nameWords firstName lastName = []
            ∨ (near 0 ≠ ' ' ∧ firstName.chars.getD 0 ' ' ≠ ' '
              ∧ lastName.chars.getD 19 ' ' = ' '))) :=
  ⟨fun h => not_positionsInside near firstName lastName h.2,
    textCleaned_iff⟩

end CobolExercises.Opgave.Opgave3
