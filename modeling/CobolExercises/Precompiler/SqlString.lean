/-
The text of the statements in WORKING-STORAGE (`sql_string`,
`outsqlfiller`).

# Lines

A text goes into items of up to 256 bytes, each on five lines at most, and
an item of one byte `X"00"` behind them. The last line of an item makes up
for the bytes the others took too many, and the size in `X(n)` is patched
when it cannot.

# Characters

A line should not end between the two bytes of a character, so `substring`
counts the bytes at its end that can start one. It only looks back to the
second byte of the line: behind a line of bytes that can all start one the
text is cut through a character, unless the line began inside of one
(`substring_whole_iff`).
-/
import CobolExercises.Precompiler.Filler
import Mathlib.Data.List.DropRight

namespace CobolExercises.Precompiler

-- ============================================================ one item

/-- `SQcount`. -/
def sqCount (i : Nat) : Line :=
  if i < 10 then ['0', '0', Char.ofNat (i + 48)]
  else if i ≤ 99 then
    ['0', Char.ofNat (i / 10 + 48), Char.ofNat (i % 10 + 48)]
  else if i ≤ 999 then
    [Char.ofNat (i / 100 + 48), Char.ofNat (i % 100 / 10 + 48),
      Char.ofNat (i % 100 % 10 + 48)]
  else ['0', '0', '0']

/-- `check_Dchar`: the byte starts a character of two bytes. -/
def checkDchar (c : Char) : Bool :=
  (0x81 ≤ c.toNat && c.toNat ≤ 0x9f) || (0xe0 ≤ c.toNat && c.toNat ≤ 0xef)

/-- `h - 1` behind the loop of `substring`; the first byte of the text is
not looked at. -/
def dcharRun (dex : Nat) (wkStr : Line) : Nat :=
  (((wkStr.take dex).drop 1).reverse.takeWhile checkDchar).length

/-- What `substring` returns, what it leaves of its argument, and
`EOFFLG`. -/
structure Cut where
  chunk : Line
  rest : Line
  eof : Bool
deriving DecidableEq

/-- `substring`. -/
def substring (len : Nat) (wkStr : Line) (flagEnd : Bool) : Cut :=
  if wkStr.length ≤ len then ⟨wkStr, [], true⟩
  else
    let dex :=
      if dcharRun len wkStr % 2 = 1 then
        if flagEnd then len - 1 else len + 1
      else len
    ⟨wkStr.take dex, wkStr.drop dex, false⟩

/-- The line of an item up to its first literal. -/
def itemStart (count : Line) : Line :=
  "OCESQL     02  FILLER PIC X(".toList ++ count ++ ") VALUE \"".toList

/-- A further line of an item up to its literal. -/
def moreStart : Line := "OCESQL  &  \"".toList

/-- The text `sql_string` still has to write, `EOFFLG` and `charcount`. -/
structure Place where
  sqlloop : Line
  eofflg : Bool
  charcount : Nat
deriving DecidableEq

/-- `sqlstr[0]` to `sqlstr[3]`: a literal behind `start`, unless the text
is at its end. -/
def fillLine (start : Line) (len : Nat) (p : Place) : Line × Place :=
  if p.eofflg then (start, p)
  else
    let cut := substring len p.sqlloop false
    let line := start ++ cut.chunk ++ ['"']
    (line.take 72 ++ if cut.eof then ['.'] else [],
      ⟨cut.rest, cut.eof,
        if line.length = 72 then p.charcount + 1 else p.charcount⟩)

/-- `sqlstr[4]`, and whether it is too short for an item of 256 bytes. -/
def fillLast (p : Place) : Line × Place × Bool :=
  if p.eofflg then (moreStart, p, false)
  else
    let cut := substring (52 - p.charcount) p.sqlloop true
    let line := (moreStart ++ cut.chunk ++ ['"']).take 72
    (line ++ ['.'], ⟨cut.rest, cut.eof, p.charcount⟩,
      line.length ≠ 65 - p.charcount && !cut.eof)

/-- Write over `sqlstr[0][28]` to `sqlstr[0][30]`. -/
def setCount (count line : Line) : Line :=
  line.take 28 ++ count ++ line.drop 31

/-- What is written for one of `sqlstr[1]` to `sqlstr[4]`: a literal without
text leaves the period alone, and a line without literal is left out. -/
def outLine (line : Line) : List Line :=
  if line.take 14 = "OCESQL  &  \"\".".toList then
    ["OCESQL     .".toList]
  else if 12 < line.length then [line]
  else []

/-- One round of the loop of `sql_string`. -/
def sqlItem (sqlloop : Line) : List Line × Place :=
  let count :=
    if sqlloop.length < 256 then sqCount sqlloop.length else "256".toList
  let l0 := fillLine (itemStart count) 30 ⟨sqlloop, false, 0⟩
  let l1 := fillLine moreStart 58 l0.2
  let l2 := fillLine moreStart 58 l1.2
  let l3 := fillLine moreStart 58 l2.2
  let l4 := fillLast l3.2
  let first := if l4.2.2 then setCount "255".toList l0.1 else l0.1
  (first :: (outLine l1.1 ++ outLine l2.1 ++ outLine l3.1 ++ outLine l4.1),
    l4.2.1)

def endLine : Line :=
  "OCESQL     02  FILLER PIC X(1) VALUE X\"00\".".toList

-- ============================================================== the cuts

/-- What `substring` can do. -/
theorem substring_cases (len : Nat) (wkStr : Line) (flagEnd : Bool) :
    (wkStr.length ≤ len
        ∧ substring len wkStr flagEnd = ⟨wkStr, [], true⟩)
      ∨ (len < wkStr.length ∧ ∃ dex,
          (dex = len ∨ dex = if flagEnd then len - 1 else len + 1)
          ∧ substring len wkStr flagEnd
            = ⟨wkStr.take dex, wkStr.drop dex, false⟩) := by
  rw [substring]
  split
  case isTrue h => exact Or.inl ⟨h, rfl⟩
  case isFalse h =>
      refine Or.inr ⟨Nat.lt_of_not_le h, _, ?_, rfl⟩
      split
      case isTrue _ => exact Or.inr rfl
      case isFalse _ => exact Or.inl rfl

theorem fillLine_left (start : Line) (len : Nat) (p : Place) :
    (fillLine start len p).2.sqlloop.length ≤ p.sqlloop.length
      ∧ ((fillLine start len p).2.eofflg = false → p.eofflg = false
        ∧ (0 < len →
          (fillLine start len p).2.sqlloop.length < p.sqlloop.length)) := by
  rw [fillLine]
  split
  case isTrue hp =>
      exact ⟨le_rfl, fun h => absurd (hp.symm.trans h) (by decide)⟩
  case isFalse hp =>
      rcases substring_cases len p.sqlloop false with ⟨hle, hcut⟩
        | ⟨hlt, dex, hdex, hcut⟩
      · simp only [hcut]
        exact ⟨Nat.zero_le _, Bool.noConfusion⟩
      · have hdex' : dex = len ∨ dex = len + 1 := hdex
        simp only [hcut, List.length_drop]
        exact ⟨Nat.sub_le .., fun _ => ⟨by simpa using hp, by omega⟩⟩

theorem fillLast_left (p : Place) :
    (fillLast p).2.1.sqlloop.length ≤ p.sqlloop.length
      ∧ ((fillLast p).2.1.eofflg = false → p.eofflg = false) := by
  rw [fillLast]
  split
  case isTrue hp => exact ⟨le_rfl, id⟩
  case isFalse hp =>
      refine ⟨?_, fun _ => by simpa using hp⟩
      rcases substring_cases (52 - p.charcount) p.sqlloop true with
        ⟨hle, hcut⟩ | ⟨hlt, dex, hdex, hcut⟩
      · simp only [hcut]
        exact Nat.zero_le _
      · simp only [hcut, List.length_drop]
        exact Nat.sub_le ..

/-- A round that is not at the end of the text takes from it. -/
theorem length_sqlItem {sqlloop : Line}
    (h : (sqlItem sqlloop).2.eofflg = false) :
    (sqlItem sqlloop).2.sqlloop.length < sqlloop.length := by
  simp only [sqlItem] at h ⊢
  have h3 := (fillLast_left _).2 h
  have h2 := (fillLine_left _ _ _).2 h3
  have h1 := (fillLine_left _ _ _).2 h2.1
  have h0 := (fillLine_left _ _ _).2 h1.1
  calc _ ≤ _ := (fillLast_left _).1
    _ < _ := h2.2 (by decide)
    _ < _ := h1.2 (by decide)
    _ < _ := h0.2 (by decide)
    _ ≤ sqlloop.length := (fillLine_left _ _ _).1

-- ======================================================= the statements

/-- The loop of `sql_string`. -/
def sqlLoop (sqlloop : Line) : List Line :=
  if (sqlItem sqlloop).2.eofflg = false then
    (sqlItem sqlloop).1 ++ sqlLoop (sqlItem sqlloop).2.sqlloop
  else (sqlItem sqlloop).1 ++ [endLine]
termination_by sqlloop.length
decreasing_by exact length_sqlItem ‹_›

/-- The words of a statement with blanks between them, but none in front of
a comma. -/
def joinSql : List Line → Line
  | [] => []
  | [w] => w
  | w :: v :: ws =>
      if v = [','] then w ++ joinSql (v :: ws)
      else w ++ ' ' :: joinSql (v :: ws)

structure CbExecList where
  sqlName : Line
  sqlList : List Line

/-- `sql_string`. -/
def sqlString (l : CbExecList) : List Line := sqlLoop (joinSql l.sqlList)

def outsqlfillerFrom : List CbExecList → List Line
  | [] => []
  | l :: ls =>
      if l.sqlList = [] then outsqlfillerFrom ls
      else
        ("OCESQL 01  ".toList ++ l.sqlName ++ ['.'])
          :: (sqlString l ++ "OCESQL*".toList :: outsqlfillerFrom ls)

/-- `outsqlfiller`. -/
def outsqlfiller (wkHead : List CbExecList) : List Line :=
  "OCESQL*".toList :: outsqlfillerFrom wkHead

-- ============================================== the bytes of a character

/-- Whether the text ends between the two bytes of a character. -/
def endsInside (text : Line) : Bool :=
  text.foldl (fun inside c => !inside && checkDchar c) false

theorem endsInside_concat (text : Line) (c : Char) :
    endsInside (text ++ [c]) = (!endsInside text && checkDchar c) := by
  rw [endsInside, List.foldl_append]
  rfl

/-- Bytes that can start a character go in pairs, the first of them perhaps
with a byte in front. -/
theorem endsInside_append (a : Line) {r : Line}
    (hr : ∀ c ∈ r, checkDchar c = true) :
    endsInside (a ++ r) = (endsInside a != decide (r.length % 2 = 1)) := by
  induction r using List.reverseRecOn with
  | nil => simp
  | append_singleton r c ih =>
      have hc := hr c (by simp)
      have ih := ih fun c hc => hr c (by simp [hc])
      rw [← List.append_assoc, endsInside_concat, ih, hc,
        List.length_append, List.length_singleton, Bool.and_true]
      have hnext : decide ((r.length + 1) % 2 = 1)
          = !decide (r.length % 2 = 1) := by
        by_cases hodd : r.length % 2 = 1
        · rw [decide_eq_true hodd, decide_eq_false (by omega)]
          rfl
        · rw [decide_eq_false hodd, decide_eq_true (by omega)]
          rfl
      rw [hnext]
      cases endsInside a with
      | true => simp
      | false => simp

/-- What the loop of `substring` runs over. -/
theorem dcharRun_cases {len : Nat} {wkStr : Line} (hlen : 0 < len)
    (hlt : len < wkStr.length) :
    (∃ a x r, wkStr.take len = a ++ [x] ++ r ∧ checkDchar x = false
        ∧ (∀ c ∈ r, checkDchar c = true) ∧ dcharRun len wkStr = r.length)
      ∨ ((∀ c ∈ wkStr.take len, checkDchar c = true)
        ∧ dcharRun len wkStr = len - 1) := by
  obtain ⟨first, more, hs⟩ := List.exists_cons_of_length_pos
    (show 0 < (wkStr.take len).length by rw [List.length_take]; omega)
  have hmore : more.length = len - 1 := by
    have h := congrArg List.length hs
    rw [List.length_take, List.length_cons] at h
    omega
  have hrun : dcharRun len wkStr = (more.rtakeWhile checkDchar).length := by
    rw [dcharRun, hs, List.rtakeWhile, List.length_reverse]
    rfl
  have hsplit : more.rdropWhile checkDchar ++ more.rtakeWhile checkDchar
      = more := List.rdropWhile_append_rtakeWhile
  have hall : ∀ c ∈ more.rtakeWhile checkDchar, checkDchar c = true :=
    fun c hc => List.mem_rtakeWhile_imp hc
  rw [hs, hrun]
  -- the run ends in front of a byte, or reaches the second one: the loop never
  -- looks at the first
  cases hb : (more.rdropWhile checkDchar).eq_nil_or_concat with
  | inl hnil =>
      rw [hnil, List.nil_append] at hsplit
      cases hfirst : checkDchar first with
      | true =>
          refine Or.inr ⟨fun c hc => ?_, by rw [hsplit, hmore]⟩
          cases List.mem_cons.mp hc with
          | inl h => rw [h, hfirst]
          | inr h => exact hall c (hsplit.symm ▸ h)
      | false =>
          refine Or.inl ⟨[], first, more.rtakeWhile checkDchar, ?_, hfirst,
            hall, rfl⟩
          rw [hsplit]
          rfl
  | inr hcons =>
      obtain ⟨b, x, hbx⟩ := hcons
      have hx : checkDchar x = false := by
        have h := List.rdropWhile_last_not checkDchar more
          (by rw [hbx]; simp)
        simpa [hbx] using h
      refine Or.inl ⟨first :: b, x, more.rtakeWhile checkDchar, ?_, hx,
        hall, rfl⟩
      rw [hbx, List.concat_eq_append] at hsplit
      rw [List.cons_append, List.cons_append, hsplit]

/-- Behind a literal that is cut off, the text of the statement is cut
between two characters exactly when one of the bytes of the literal cannot
start a character, or the literal itself begins inside of one. -/
theorem substring_whole_iff (before : Line) {len : Nat} {wkStr : Line}
    (flagEnd : Bool) (hlen : 0 < len) (hlt : len < wkStr.length) :
    endsInside (before ++ (substring len wkStr flagEnd).chunk) = false
      ↔ endsInside before = true
        ∨ ∃ c ∈ (substring len wkStr flagEnd).chunk,
          checkDchar c = false := by
  have hmore : wkStr.take (len + 1) = wkStr.take len ++ [wkStr[len]] :=
    (List.take_append_getElem hlt).symm
  have hless : wkStr.take (len - 1) = (wkStr.take len).dropLast := by
    rw [List.dropLast_eq_take, List.take_take, List.length_take]
    congr 1
    omega
  have hsize : (wkStr.take len).length = len := by
    rw [List.length_take]
    omega
  rw [substring, if_neg (by omega)]
  simp only
  rcases dcharRun_cases hlen hlt with ⟨a, x, r, hs, hx, hr, hrun⟩
    | ⟨hall, hrun⟩
  · -- both sides hold: the byte in front of the run ends a character
    have hinside : endsInside (before ++ (a ++ [x])) = false := by
      rw [← List.append_assoc, endsInside_concat, hx, Bool.and_false]
    rw [hrun]
    by_cases hodd : r.length % 2 = 1
    · rw [if_pos hodd]
      cases flagEnd with
      | true =>
          have hne : r ≠ [] := by
            rintro rfl
            cases hodd
          rw [if_pos rfl, hless, hs, List.dropLast_append_of_ne_nil hne,
            ← List.append_assoc before, endsInside_append _ fun c hc =>
              hr c (List.dropLast_subset _ hc), List.length_dropLast, hinside]
          exact iff_of_true (by simp; omega) (.inr ⟨x, by simp, hx⟩)
      | false =>
          rw [if_neg (by decide), hmore, ← List.append_assoc before,
            endsInside_concat, hs, ← List.append_assoc before,
            endsInside_append _ hr, hinside]
          exact iff_of_true (by simp [hodd]) (.inr ⟨x, by simp, hx⟩)
    · rw [if_neg hodd, hs, ← List.append_assoc before,
        endsInside_append _ hr, hinside]
      exact iff_of_true (by simp [hodd]) (.inr ⟨x, by simp, hx⟩)
  · -- the run has swallowed the first byte, and an odd number is taken
    have hodds : ∀ t : Line, (∀ c ∈ t, checkDchar c = true) →
        t.length % 2 = 1 →
        (endsInside (before ++ t) = false
          ↔ endsInside before = true ∨ ∃ c ∈ t, checkDchar c = false) := by
      intro t ht hodd
      have hnone : ¬ ∃ c ∈ t, checkDchar c = false := by
        rintro ⟨c, hc, hno⟩
        rw [ht c hc] at hno
        cases hno
      rw [endsInside_append _ ht, decide_eq_true hodd, or_iff_left hnone]
      cases endsInside before with
      | true => simp
      | false => simp
    rw [hrun]
    by_cases hodd : (len - 1) % 2 = 1
    · rw [if_pos hodd]
      cases flagEnd with
      | true =>
          rw [if_pos rfl, hless]
          refine hodds _ (fun c hc => hall c (List.dropLast_subset _ hc)) ?_
          rw [List.length_dropLast, hsize, hodd]
      | false =>
          -- the byte that is taken as well may be of any kind
          rw [if_neg (by decide), hmore]
          cases hlast : checkDchar wkStr[len] with
          | true =>
              refine hodds _ (fun c hc => ?_) ?_
              · rcases List.mem_append.mp hc with hc | hc
                · exact hall c hc
                · rw [List.mem_singleton.mp hc, hlast]
              · rw [List.length_append, hsize, List.length_singleton]
                omega
          | false =>
              rw [← List.append_assoc, endsInside_concat, hlast,
                Bool.and_false]
              exact iff_of_true rfl (.inr ⟨_, List.mem_append_right _
                (List.mem_singleton_self _), hlast⟩)
    · rw [if_neg hodd]
      exact hodds _ hall (by rw [hsize]; omega)

/-- 31 bytes that can all start a character are cut through one, but the 31
behind them end with one. -/
theorem substring_whole_iff_sample :
    endsInside ([] ++ (substring 30 (List.replicate 90 (Char.ofNat 0x88))
        false).chunk) = true
      ∧ endsInside (List.replicate 31 (Char.ofNat 0x88)
        ++ (substring 58 (List.replicate 59 (Char.ofNat 0x88))
          false).chunk) = false := by
  refine ⟨eq_true_of_ne_false fun h => ?_,
    (substring_whole_iff _ false (by decide) (by decide)).mpr
      (.inl (by decide))⟩
  have hcut :=
    (substring_whole_iff [] false (by decide) (by decide)).mp h
  rcases hcut with hcut | ⟨c, hc, hno⟩
  · cases hcut
  · obtain rfl := List.eq_of_mem_replicate (List.mem_of_mem_take hc)
    exact absurd hno (by decide)

end CobolExercises.Precompiler
