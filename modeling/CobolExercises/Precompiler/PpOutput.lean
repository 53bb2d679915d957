/-
How the precompiler merges the calls into the source (`ppoutput`).

# One pass

The statements of the program are a list in the order they were found, and
`ppoutput` reads the source once with a pointer into that list. A line of
the current statement becomes a comment; on the line behind it the
statement's calls are written and the pointer moves on, one statement a
line. The texts of the statements go in front of the line that ends
WORKING-STORAGE. What is written is a list of lines and of calls of
`ppbuff`; `ppbuff` gets the rest of the list as well.

# The buffer

A comment is made in `inbuff`, by seven bytes over the front of the line.
Where the line is shorter they go over its end, and what an earlier line
has left behind it is written too (`leftOver`). At the end of the file
nothing is read, and the buffer is written once more.

# The output

If every statement starts on a later line than the one before it ends, each
line comes out once, commented or not, and the calls stand where they
belong (`ppoutput_eq`).
-/
import CobolExercises.Precompiler.SqlString
import CobolExercises.Database.HostVar

namespace CobolExercises.Precompiler

open Database

-- ============================================================ statements

/-- `cb_hostreference_list`. -/
structure HostReference where
  hostreference : Line
  hostno : Nat
  lineno : Nat

/-- `cb_exec_list`. -/
structure CbExec extends CbExecList where
  startLine : Nat
  endLine : Nat
  period : Bool
  hostList : List HostReference
  hostreferenceCount : Nat
  resHostList : List (Line × Nat)
  connUseOtherDb : Bool
  dbName : Line
  prepareName : Line
  cursorName : Line
  commandName : Line
  commandPutother : Bool

namespace CbExec

def covers (l : CbExec) (lineNum : Nat) : Bool :=
  decide (l.startLine ≤ lineNum) && decide (lineNum ≤ l.endLine)

def isWorkingEnd (l : CbExec) : Bool := l.commandName = "WORKING_END".toList

/-- The start or the end of WORKING-STORAGE, a line of the source that
stays. -/
def isWorking (l : CbExec) : Bool :=
  l.commandName = "WORKING_BEGIN".toList || l.isWorkingEnd

/-- The line is one of a statement. -/
def comments (l : CbExec) (lineNum : Nat) : Bool :=
  l.covers lineNum && !l.isWorking

end CbExec

-- ============================================================== the buffer

/-- INC_START_MARK and INC__END__MARK. -/
def incStartMark : Line := List.replicate 72 '>'

def incEndMark : Line := List.replicate 72 '<'

/-- `strstr`, not NULL. -/
def strstr (needle : Line) : Line → Bool
  | [] => needle.isEmpty
  | c :: text => needle.isPrefixOf (c :: text) || strstr needle text

/-- `strstr` finds a text that is somewhere in the line. -/
theorem strstr_iff {needle text : Line} :
    strstr needle text = true ↔ needle <:+: text := by
  induction text with
  | nil => simp [strstr]
  | cons c text ih => simp [strstr, List.infix_cons_iff, ih]

def isMark (text : Line) : Bool :=
  strstr incStartMark text || strstr incEndMark text

/-- `com_readline` where there is a line: what `fgets` stores, with one byte
for the end of a line that had two. -/
def comReadline (line inbuff : Line) : Line :=
  let read := line ++ '\x00' :: inbuff.drop (line.length + 1)
  if read.getD (line.length - 2) ' ' = '\r'
      ∧ read.getD (line.length - 1) ' ' = '\n' then
    (read.set (line.length - 2) '\n').set (line.length - 1) '\x00'
  else read

/-- `inbuff[0]` to `inbuff[6]` written over. -/
def commentOut (inbuff : Line) : Line := "OCESQL*".toList ++ inbuff.drop 7

-- ================================================================ the pass

/-- What is written: a line, or what `ppbuff` writes. -/
inductive Out where
  | line (text : Line)
  | ppbuff (l : List CbExec)

/-- What a round writes, and what it leaves in `inbuff` and `l`. -/
structure Round where
  out : List Out
  inbuff : Line
  l : List CbExec

/-- `if(l->next != NULL) l = l->next`. -/
def advance (l : CbExec) : List CbExec → List CbExec
  | [] => [l]
  | next => next

/-- The buffer as a comment, where the line is one of the statement at
`l`. -/
def markLine (lineNum : Nat) (inbuff : Line) : List CbExec → Line
  | [] => inbuff
  | l :: _ => if l.comments lineNum then commentOut inbuff else inbuff

/-- A round of `ppoutput`, behind `com_readline` and the test for the
marks. -/
def ppoutputRound (eofflg : Bool) (lineNum : Nat) (inbuff : Line) :
    List CbExec → Round
  | [] => ⟨[.line (cstring inbuff)], inbuff, []⟩
  | l :: next =>
      if l.covers lineNum then
        let inbuff := markLine lineNum inbuff (l :: next)
        ⟨(if l.isWorkingEnd then [.ppbuff (l :: next)] else [])
            ++ [.line (cstring inbuff ++ if eofflg then ['\n'] else [])],
          inbuff, l :: next⟩
      else if lineNum = l.endLine + 1 then
        let inbuff := markLine lineNum inbuff (advance l next)
        ⟨(if l.isWorkingEnd then [] else [.ppbuff (l :: next)])
            ++ [.line (cstring inbuff)],
          inbuff, advance l next⟩
      else ⟨[.line (cstring inbuff)], inbuff, l :: next⟩

/-- The loop of `ppoutput`, `lineNum` lines into the file. -/
def ppoutputLoop (lineNum : Nat) (inbuff : Line) (l : List CbExec) :
    List Line → List Out
  | [] =>
      if isMark (cstring inbuff) then []
      else (ppoutputRound true (lineNum + 1) inbuff l).out
  | line :: file =>
      let inbuff := comReadline line inbuff
      if isMark (cstring inbuff) then
        ppoutputLoop (lineNum + 1) inbuff l file
      else
        let r := ppoutputRound false (lineNum + 1) inbuff l
        r.out ++ ppoutputLoop (lineNum + 1) r.inbuff r.l file

/-- `ppoutput`; the file is what the calls of `fgets` read. -/
def ppoutput (inbuff : Line) (file : List Line) (head : List CbExec) :
    List Out :=
  ppoutputLoop 0 inbuff head file

-- ====================================================== what is in inbuff

/-- The line without the first byte of an end of two. -/
def lineText (line : Line) : Line :=
  if line.getD (line.length - 2) ' ' = '\r'
      ∧ line.getD (line.length - 1) ' ' = '\n' then
    line.take (line.length - 2) ++ ['\n']
  else line

/-- What is behind the first seven bytes of `inbuff` when a line has been
read; a line of fewer bytes leaves it alone. -/
def behindLine (before line : Line) : Line :=
  if line.length < 7 then before else (lineText line).drop 7

theorem cstring_append {text : Line} (h : '\x00' ∉ text) (rest : Line) :
    cstring (text ++ '\x00' :: rest) = text := by
  induction text with
  | nil => rfl
  | cons c text ih =>
      obtain ⟨hc, htext⟩ := List.ne_and_not_mem_of_not_mem_cons h
      rw [List.cons_append, cstring, List.takeWhile_cons,
        if_pos (by simpa using Ne.symm hc)]
      exact congrArg (c :: ·) (ih htext)

/-- A line of two bytes at least is its last two behind the others. -/
theorem eq_append_pair {line : Line} (h : 2 ≤ line.length) :
    ∃ body a b, line = body ++ [a, b] := by
  obtain ⟨init, b, rfl⟩ := List.eq_nil_or_concat line |>.resolve_left
    (by rintro rfl; simp at h)
  obtain ⟨body, a, rfl⟩ := List.eq_nil_or_concat init |>.resolve_left
    (by rintro rfl; simp at h)
  exact ⟨body, a, b, by simp⟩

/-- The two forms of a line that is read. -/
theorem comReadline_cases (line inbuff : Line) :
    (lineText line = line ∧ comReadline line inbuff
        = line ++ '\x00' :: inbuff.drop (line.length + 1))
      ∨ ∃ body, line = body ++ ['\r', '\n']
        ∧ lineText line = body ++ ['\n']
        ∧ comReadline line inbuff = (body ++ ['\n'])
          ++ '\x00' :: '\x00' :: inbuff.drop (line.length + 1) := by
  by_cases hlen : 2 ≤ line.length
  · obtain ⟨body, a, b, rfl⟩ := eq_append_pair hlen
    by_cases hend : a = '\r' ∧ b = '\n'
    · obtain ⟨rfl, rfl⟩ := hend
      refine .inr ⟨body, rfl, ?_, ?_⟩
      · simp [lineText]
      · simp [comReadline]
    · refine .inl ⟨?_, ?_⟩
      · simp [lineText, hend]
      · simp [comReadline, hend]
  · left
    cases line with
    | nil => simp [lineText, comReadline]
    | cons c rest =>
        obtain rfl : rest = [] := by
          rw [← List.length_eq_zero_iff]
          simp only [List.length_cons] at hlen
          omega
        have hc : ¬(c = '\r' ∧ c = '\n') := by
          rintro ⟨rfl, h⟩
          exact absurd h (by decide)
        simp [lineText, comReadline, hc]

/-- The string in `inbuff` is the line that was read. -/
theorem cstring_comReadline {line : Line} (hnul : '\x00' ∉ line)
    (inbuff : Line) :
    cstring (comReadline line inbuff) = lineText line := by
  rcases comReadline_cases line inbuff with ⟨htext, hread⟩
    | ⟨body, rfl, htext, hread⟩
  · rw [hread, htext, cstring_append hnul]
  · rw [hread, htext, cstring_append]
    simp only [List.mem_append, not_or] at hnul
    simp [hnul.1]

/-- Nothing is seen from behind of bytes written in front. -/
theorem drop_front {front : Line} {n : Nat} (h : front.length ≤ n)
    (inbuff : Line) :
    (front ++ inbuff.drop front.length).drop n = inbuff.drop n := by
  rw [List.drop_append, List.drop_eq_nil_of_le h, List.nil_append,
    List.drop_drop, Nat.add_sub_cancel' h]

/-- What is behind the first seven bytes. -/
theorem cstring_drop_comReadline {line : Line} (hnul : '\x00' ∉ line)
    (inbuff : Line) :
    cstring ((comReadline line inbuff).drop 7)
      = behindLine (cstring (inbuff.drop 7)) line := by
  unfold behindLine
  rcases comReadline_cases line inbuff with ⟨htext, hread⟩
    | ⟨body, rfl, htext, hread⟩
  · rw [hread, htext]
    split
    case isTrue hshort =>
        have hlen : (line ++ ['\x00']).length ≤ 7 := by
          simp
          omega
        have hfront := drop_front hlen inbuff
        rw [List.length_append, List.append_assoc] at hfront
        exact congrArg cstring hfront
    case isFalse hlong =>
        rw [List.drop_append_of_le_length (by omega), cstring_append]
        exact fun h => hnul (List.mem_of_mem_drop h)
  -- the line has its end in it, and is one byte shorter than it was
  · have hbody : '\x00' ∉ body ++ ['\n'] := by
      simp only [List.mem_append, not_or] at hnul
      simp [hnul.1]
    rw [hread, htext]
    split
    case isTrue hshort =>
        have hlen : (body ++ ['\n', '\x00', '\x00']).length ≤ 7 := by
          simp at hshort ⊢
          omega
        have hfront := drop_front hlen inbuff
        rw [List.append_assoc]
        rw [List.append_assoc, List.length_append] at hfront
        rw [List.length_append]
        exact congrArg cstring hfront
    case isFalse hlong =>
        rw [List.length_append, List.length_cons, List.length_singleton,
          Nat.not_lt] at hlong
        by_cases hlen : 7 ≤ (body ++ ['\n']).length
        · rw [List.drop_append_of_le_length hlen, cstring_append]
          exact fun h => hbody (List.mem_of_mem_drop h)
        · have hfive : (body ++ ['\n']).length = 6 := by
            simp at hlen hlong ⊢
            omega
          rw [List.drop_append, hfive,
            List.drop_eq_nil_of_le (by omega : (body ++ ['\n']).length ≤ 7)]
          rfl

/-- A line that was made a comment keeps what is behind column seven. -/
theorem cstring_commentOut (inbuff : Line) :
    cstring (commentOut inbuff)
      = "OCESQL*".toList ++ cstring (inbuff.drop 7) := rfl

theorem drop_commentOut (inbuff : Line) :
    (commentOut inbuff).drop 7 = inbuff.drop 7 := rfl

-- ====================================================== what should be

/-- A line of the file, counted from 1. -/
def lineAt (file : List Line) (lineNum : Nat) : Line :=
  lineText (file.getD (lineNum - 1) [])

/-- What is behind the first seven bytes of `inbuff` when these lines have
been read. -/
def leftOver (inbuff : Line) (file : List Line) : Line :=
  file.foldl behindLine (cstring (inbuff.drop 7))

/-- What a line of the file becomes. -/
def shown (inbuff : Line) (file : List Line) (head : List CbExec)
    (lineNum : Nat) : Line :=
  if head.any (·.comments lineNum) && !isMark (lineAt file lineNum) then
    "OCESQL*".toList ++ leftOver inbuff (file.take lineNum)
  else lineAt file lineNum

namespace CbExec

/-- The calls stand on this line: behind the statement, or in front of the
line that ends WORKING-STORAGE. -/
def closes (l : CbExec) (lineNum : Nat) : Bool :=
  if l.isWorkingEnd then l.covers lineNum
  else decide (lineNum = l.endLine + 1)

/-- The second starts on a later line than the first ends; where it is the
end of WORKING-STORAGE, there is a line between them. -/
structure Apart (l t : CbExec) : Prop where
  later : l.endLine < t.startLine
  gap : t.isWorkingEnd = true → l.endLine + 1 < t.startLine

instance (l t : CbExec) : Decidable (l.Apart t) :=
  decidable_of_iff (l.endLine < t.startLine
      ∧ (t.isWorkingEnd = true → l.endLine + 1 < t.startLine))
    ⟨fun h => ⟨h.1, h.2⟩, fun h => ⟨h.later, h.gap⟩⟩

end CbExec

/-- The calls that stand on this line. -/
def closing (lineNum : Nat) : List CbExec → List Out
  | [] => []
  | l :: next =>
      if l.closes lineNum then .ppbuff (l :: next) :: closing lineNum next
      else closing lineNum next

/-- What is written for a line of the file. -/
def woven (inbuff : Line) (file : List Line) (head : List CbExec)
    (lineNum : Nat) : List Out :=
  if isMark (lineAt file lineNum) then []
  else closing lineNum head ++ [.line (shown inbuff file head lineNum)]

/-- What is written at the end of the file: the last line again. -/
def wovenEnd (inbuff : Line) (file : List Line) (head : List CbExec) :
    List Out :=
  if isMark (shown inbuff file head file.length) then []
  else closing (file.length + 1) head
    ++ [.line (shown inbuff file head file.length)]

/-- Every statement has its lines for itself, and the line behind it is not
one of the marks around an included file. -/
structure Spaced (file : List Line) (head : List CbExec) : Prop where
  place : ∀ l ∈ head, l.startLine ≤ l.endLine ∧ l.endLine ≤ file.length
  apart : head.Pairwise CbExec.Apart
  marks : ∀ l ∈ head, isMark (lineAt file (l.endLine + 1)) = false

-- =========================================================== the pointer

section Pointer

variable {n : Nat} {l : CbExec} {next head : List CbExec}

theorem CbExec.covers_iff :
    l.covers n = true ↔ l.startLine ≤ n ∧ n ≤ l.endLine := by
  simp [CbExec.covers]

/-- Only a line of the statement is made a comment for it. -/
theorem CbExec.comments_eq_false (h : l.covers n = false) :
    l.comments n = false := by
  rw [CbExec.comments, h, Bool.false_and]

/-- A line in front of the statement, or behind it. -/
theorem CbExec.covers_eq_false (h : n < l.startLine ∨ l.endLine < n) :
    l.covers n = false := by
  rw [← Bool.not_eq_true, CbExec.covers_iff]
  omega

/-- Outside of the statement. -/
theorem CbExec.closes_of_covers_eq_false (h : l.covers n = false) :
    l.closes n = (!l.isWorkingEnd && decide (n = l.endLine + 1)) := by
  unfold CbExec.closes
  rw [h]
  cases l.isWorkingEnd <;> rfl

/-- Inside a statement only the end of the section is written. -/
theorem CbExec.closes_of_covers (h : l.covers n = true) :
    l.closes n = l.isWorkingEnd := by
  have hend := (CbExec.covers_iff.mp h).2
  have hne : ¬n = l.endLine + 1 := by omega
  unfold CbExec.closes
  rw [h, decide_eq_false hne]
  cases l.isWorkingEnd <;> rfl

/-- Two lines behind a statement nothing of it is left to write. -/
theorem CbExec.closes_of_lt (h : l.endLine + 1 < n) : l.closes n = false := by
  rw [CbExec.closes_of_covers_eq_false (CbExec.covers_eq_false (by omega)),
    decide_eq_false (by omega), Bool.and_false]

/-- A statement that comes later has no calls here yet. -/
theorem CbExec.Apart.closes {t : CbExec} (h : l.Apart t)
    (hplace : t.startLine ≤ t.endLine) (hn : n ≤ l.endLine + 1) :
    t.closes n = false := by
  have hlater := h.later
  unfold CbExec.closes
  split
  case isTrue hend =>
      have hgap := h.gap hend
      exact CbExec.covers_eq_false (by omega)
  case isFalse => exact decide_eq_false (by omega)

/-- Statements that have no calls here can be left out. -/
theorem closing_append {done : List CbExec}
    (h : ∀ l ∈ done, l.closes n = false) :
    closing n (done ++ head) = closing n head := by
  induction done with
  | nil => rfl
  | cons l done ih =>
      rw [List.cons_append, closing, h l List.mem_cons_self,
        if_neg Bool.false_ne_true]
      exact ih fun t ht => h t (List.mem_cons_of_mem l ht)

/-- No calls are written at the line. -/
theorem closing_eq_nil (h : ∀ l ∈ head, l.closes n = false) :
    closing n head = [] := by
  have happend : closing n (head ++ []) = closing n [] := closing_append h
  rwa [List.append_nil] at happend

/-- The line belongs to no statement. -/
theorem any_comments_eq_false (h : ∀ l ∈ head, l.covers n = false) :
    head.any (·.comments n) = false := by
  rw [List.any_eq_false]
  intro t ht
  rw [CbExec.comments_eq_false (h t ht)]
  exact Bool.false_ne_true

end Pointer

-- ================================================ the line and the pointer

section Spaced

variable {file : List Line} {n : Nat} {l : CbExec}
  {next head done : List CbExec}

/-- What is left of the statements is spaced like them all. -/
theorem Spaced.suffix (hs : Spaced file (done ++ head)) :
    Spaced file head where
  place l hl := hs.place l (List.mem_append_right done hl)
  apart := (List.pairwise_append.mp hs.apart).2.1
  marks l hl := hs.marks l (List.mem_append_right done hl)

/-- The first of them is apart from every one behind. -/
theorem Spaced.apart_next (hs : Spaced file (l :: next)) {t : CbExec}
    (ht : t ∈ next) : l.Apart t :=
  List.rel_of_pairwise_cons hs.apart ht

/-- Behind the statement nothing stands on a line up to the one behind
it. -/
theorem closing_cons (hs : Spaced file (l :: next))
    (hn : n ≤ l.endLine + 1 ∨ next = []) :
    closing n (l :: next)
      = if l.closes n then [.ppbuff (l :: next)] else [] := by
  have hnext : closing n next = [] := by
    rcases hn with hn | rfl
    · exact closing_eq_nil fun t ht => (hs.apart_next ht).closes
        (hs.place t (List.mem_cons_of_mem l ht)).1 hn
    · rfl
  rw [closing, hnext]

/-- A line of the statement, or one in front of it. -/
theorem any_comments_cons (hs : Spaced file (l :: next))
    (hn : n ≤ l.endLine ∨ next = []) :
    (l :: next).any (·.comments n) = l.comments n := by
  rw [List.any_cons, any_comments_eq_false, Bool.or_false]
  intro t ht
  rcases hn with hn | rfl
  · have hlater := (hs.apart_next ht).later
    exact CbExec.covers_eq_false (by omega)
  · cases ht

/-- The line behind the statement: only the next one can have it. -/
theorem markLine_advance (hs : Spaced file (l :: next))
    (hn : n = l.endLine + 1) (inbuff : Line) :
    markLine n inbuff (advance l next)
      = if (l :: next).any (·.comments n) then commentOut inbuff
        else inbuff := by
  have houtside : l.comments n = false :=
    CbExec.comments_eq_false (CbExec.covers_eq_false (by omega))
  rw [List.any_cons, houtside, Bool.false_or]
  cases next with
  | nil => simp [advance, markLine, houtside]
  | cons u rest =>
      have hall : Spaced file ([l] ++ u :: rest) := hs
      have hrest := hall.suffix
      have hlater := (hs.apart_next (t := u) List.mem_cons_self).later
      have hu := (hrest.place u List.mem_cons_self).1
      rw [any_comments_cons hrest (.inl (by omega))]
      rfl

/-- The pointer when `n` lines have been read: what is in front of it is
done, and the statement it is at is not, unless it is the last one. -/
structure At (head : List CbExec) (n : Nat) (l : List CbExec) : Prop where
  split : ∃ done, head = done ++ l ∧ ∀ d ∈ done, d.endLine < n
  here : ∀ t ∈ l.head?, n ≤ t.endLine ∨ l.tail = []

/-- What is done does not matter for the next line. -/
theorem At.suffix {l : List CbExec} (hat : At head n l) :
    closing (n + 1) head = closing (n + 1) l
      ∧ head.any (·.comments (n + 1)) = l.any (·.comments (n + 1)) := by
  obtain ⟨done, rfl, hdone⟩ := hat.split
  refine ⟨closing_append fun d hd => CbExec.closes_of_lt ?_, ?_⟩
  · have := hdone d hd
    omega
  · rw [List.any_append, any_comments_eq_false, Bool.false_or]
    intro d hd
    have := hdone d hd
    exact CbExec.covers_eq_false (by omega)

/-- The pointer stays where it is. -/
theorem At.stay {l : List CbExec} (hat : At head n l)
    (hhere : ∀ t ∈ l.head?, n + 1 ≤ t.endLine ∨ l.tail = []) :
    At head (n + 1) l := by
  obtain ⟨done, hsplit, hdone⟩ := hat.split
  exact ⟨⟨done, hsplit, fun d hd => Nat.lt_succ_of_lt (hdone d hd)⟩, hhere⟩

/-- Behind its statement the pointer moves on. -/
theorem At.advance (hs : Spaced file (l :: next))
    (hat : At head n (l :: next)) (hn : n = l.endLine) :
    At head (n + 1) (advance l next) := by
  cases next with
  | nil => exact hat.stay fun t _ => .inr rfl
  | cons u rest =>
      obtain ⟨done, hsplit, hdone⟩ := hat.split
      refine ⟨⟨done ++ [l], by simp [hsplit, Precompiler.advance], ?_⟩, ?_⟩
      · intro d hd
        rcases List.mem_append.mp hd with hd | hd
        · exact Nat.lt_succ_of_lt (hdone d hd)
        · rw [List.mem_singleton.mp hd, hn]
          exact Nat.lt_succ_self _
      · intro t ht
        obtain rfl := Option.some.inj ht
        have hlater := (hs.apart_next (t := u) List.mem_cons_self).later
        have hu := (hs.place u (by simp)).1
        exact .inl (by omega)

/-- A round writes what stands on the line and keeps the pointer where it
belongs. -/
theorem ppoutputRound_eq {l : List CbExec} (hs : Spaced file l)
    (hat : At head n l) (inbuff : Line) (eofflg : Bool)
    (heof : eofflg = true → file.length ≤ n) {b : Line}
    (hb : b = if l.any (·.comments (n + 1)) then commentOut inbuff
      else inbuff) :
    ∃ l', At head (n + 1) l'
      ∧ ppoutputRound eofflg (n + 1) inbuff l
        = ⟨closing (n + 1) l ++ [.line (cstring b)], b, l'⟩ := by
  cases l with
  | nil =>
      subst hb
      refine ⟨[], hat.stay ?_, rfl⟩
      intro t ht
      cases ht
  | cons t next =>
      have hhere := hat.here t rfl
      rw [closing_cons hs (hhere.imp (fun h => by omega) id), ppoutputRound]
      split
      case isTrue hcovers =>
          -- a line of the statement
          have hend := (CbExec.covers_iff.mp hcovers).2
          have hflag : eofflg = false := by
            have hplace := (hs.place t List.mem_cons_self).2
            cases eofflg with
            | false => rfl
            | true => exact absurd (heof rfl) (by omega)
          rw [any_comments_cons hs (.inl hend)] at hb
          subst hflag hb
          refine ⟨t :: next, hat.stay fun u hu => ?_, ?_⟩
          · obtain rfl := Option.some.inj hu
            exact .inl hend
          · rw [CbExec.closes_of_covers hcovers, markLine]
            simp
      case isFalse hcovers =>
          rw [Bool.not_eq_true] at hcovers
          rw [CbExec.closes_of_covers_eq_false hcovers]
          split
          case isTrue hbehind =>
              -- the line behind it
              refine ⟨advance t next, hat.advance hs (by omega), ?_⟩
              rw [markLine_advance hs hbehind, ← hb, decide_eq_true hbehind]
              cases t.isWorkingEnd <;> rfl
          case isFalse hbehind =>
              -- in front of it, or behind the last statement
              have hfar : n + 1 ≤ t.endLine ∨ next = [] :=
                hhere.imp (fun h => by omega) id
              rw [any_comments_cons hs hfar,
                CbExec.comments_eq_false hcovers,
                if_neg Bool.false_ne_true] at hb
              subst hb
              refine ⟨t :: next, hat.stay fun u hu => ?_, ?_⟩
              · obtain rfl := Option.some.inj hu
                exact hfar
              · rw [decide_eq_false hbehind, Bool.and_false,
                  if_neg Bool.false_ne_true]
                rfl

end Spaced

-- =================================================================== a run

section Run

variable {inbuff b : Line} {file : List Line} {head : List CbExec} {n : Nat}

/-- What `inbuff` holds when `n` lines have been read. -/
structure Holds (inbuff : Line) (file : List Line) (head : List CbExec)
    (n : Nat) (b : Line) : Prop where
  behind : cstring (b.drop 7) = leftOver inbuff (file.take n)
  text : 0 < n → cstring b = shown inbuff file head n

/-- Reading a line, and making a comment of it where it has to be one. -/
theorem Holds.read {line : Line} {rest : List Line}
    (h : Holds inbuff file head n b) (hrest : file.drop n = line :: rest)
    (hnul : '\x00' ∉ line) :
    lineAt file (n + 1) = lineText line
      ∧ Holds inbuff file head (n + 1)
        (if head.any (·.comments (n + 1)) && !isMark (lineText line) then
          commentOut (comReadline line b)
        else comReadline line b) := by
  have hget : file[n]? = some line := by
    rw [← List.head?_drop, hrest]
    rfl
  have hat : lineAt file (n + 1) = lineText line := by
    rw [lineAt, Nat.add_sub_cancel, List.getD_eq_getElem?_getD, hget]
    rfl
  have hbehind : cstring ((comReadline line b).drop 7)
      = leftOver inbuff (file.take (n + 1)) := by
    rw [List.take_add_one, hget, leftOver, List.foldl_append,
      cstring_drop_comReadline hnul, h.behind]
    rfl
  refine ⟨hat, ?_, fun _ => ?_⟩
  · rw [apply_ite (List.drop 7), drop_commentOut, ite_self]
    exact hbehind
  · rw [shown, hat, apply_ite cstring, cstring_commentOut, hbehind,
      cstring_comReadline hnul]

/-- From the line the pointer is at on. -/
theorem ppoutputLoop_eq (hs : Spaced file head) (hfile : 0 < file.length)
    (hnul : ∀ line ∈ file, '\x00' ∉ line) {rest : List Line}
    {l : List CbExec} (hrest : file.drop n = rest) (hn : n ≤ file.length)
    (hat : At head n l) (hb : Holds inbuff file head n b) :
    ppoutputLoop n b l rest
      = (List.range' (n + 1) rest.length).flatMap (woven inbuff file head)
        ++ wovenEnd inbuff file head := by
  induction rest generalizing n l b with
  | nil =>
      obtain rfl : n = file.length :=
        Nat.le_antisymm hn (List.drop_eq_nil_iff.mp hrest)
      -- the end of the file: what stands behind the last line is woven in last
      obtain ⟨done, hsplit, -⟩ := hat.split
      have hsuffix : Spaced file l := (hsplit ▸ hs).suffix
      rw [ppoutputLoop, hb.text hfile, List.length_nil, List.range'_zero,
        List.flatMap_nil, List.nil_append, wovenEnd]
      split
      case isTrue => rfl
      case isFalse =>
          have hnone : l.any (·.comments (file.length + 1)) = false :=
            any_comments_eq_false fun t ht => CbExec.covers_eq_false (by
              have := (hsuffix.place t ht).2
              omega)
          obtain ⟨l', -, hround⟩ := ppoutputRound_eq hsuffix hat b
            true (fun _ => le_rfl) rfl
          rw [hround, hat.suffix.1, hnone, if_neg Bool.false_ne_true,
            hb.text hfile]
  | cons line rest ih =>
      have hmem : line ∈ file :=
        List.mem_of_mem_drop (hrest ▸ List.mem_cons_self)
      have hnext : file.drop (n + 1) = rest := by
        rw [← List.drop_drop, hrest]
        rfl
      have hlt : n + 1 ≤ file.length := by
        by_contra hge
        rw [List.drop_eq_nil_of_le (by omega)] at hrest
        cases hrest
      obtain ⟨hline, hread⟩ := hb.read hrest (hnul line hmem)
      obtain ⟨done, hsplit, -⟩ := hat.split
      rw [ppoutputLoop, cstring_comReadline (hnul line hmem),
        List.length_cons, List.range'_succ, List.flatMap_cons,
        List.append_assoc, woven, hline]
      split
      case isTrue hmark =>
          rw [hmark, Bool.not_true, Bool.and_false,
            if_neg Bool.false_ne_true] at hread
          refine ih hnext hlt (hat.stay fun t ht => ?_) hread
          -- the statement does not end on the line in front of a mark
          refine (hat.here t ht).imp (fun hle => ?_) id
          have hmem : t ∈ head := by
            rw [hsplit]
            exact List.mem_append_right done (List.mem_of_mem_head? ht)
          have hne : t.endLine ≠ n := by
            rintro rfl
            have hmarks := hs.marks t hmem
            rw [hline, hmark] at hmarks
            cases hmarks
          omega
      case isFalse hmark =>
          -- any other line takes part in a round
          rw [Bool.not_eq_true] at hmark
          rw [hmark, Bool.not_false, Bool.and_true] at hread
          obtain ⟨hclosing, hany⟩ := hat.suffix
          have hsuffix : Spaced file l := (hsplit ▸ hs).suffix
          obtain ⟨l', hat', hround⟩ := ppoutputRound_eq hsuffix hat
            (comReadline line b) false Bool.noConfusion rfl
          rw [← hclosing, ← hany] at hround
          dsimp only
          rw [hround, ih hnext hlt hat' hread, hread.text (Nat.succ_pos n),
            List.append_assoc]

/-- The output of the precompiler: every line of the file, commented where
it is one of a statement, the calls where they belong, and the last line
once more. -/
theorem ppoutput_eq (hs : Spaced file head) (hfile : 0 < file.length)
    (hnul : ∀ line ∈ file, '\x00' ∉ line) (inbuff : Line) :
    ppoutput inbuff file head
      = (List.range' 1 file.length).flatMap (woven inbuff file head)
        ++ wovenEnd inbuff file head := by
  refine ppoutputLoop_eq hs hfile hnul (List.drop_zero ..) (Nat.zero_le _)
    ⟨⟨[], rfl, ?_⟩, ?_⟩ ⟨rfl, fun h => absurd h (Nat.lt_irrefl 0)⟩
  · intro d hd
    cases hd
  · exact fun t _ => .inl (Nat.zero_le _)

/-- A program with COMMIT as its only statement. -/
def commitFile : List Line :=
  ["       WORKING-STORAGE SECTION.\n".toList, "\n".toList,
    "       PROCEDURE DIVISION.\n".toList,
    "           EXEC SQL COMMIT END-EXEC.\n".toList,
    "           STOP RUN.\n".toList]

def entry (commandName : Line) (startLine endLine : Nat) : CbExec where
  sqlName := []
  sqlList := []
  startLine := startLine
  endLine := endLine
  period := true
  hostList := []
  hostreferenceCount := 0
  resHostList := []
  connUseOtherDb := false
  dbName := []
  prepareName := []
  cursorName := []
  commandName := commandName
  commandPutother := false

def commitHead : List CbExec :=
  [entry "WORKING_BEGIN".toList 1 1, entry "WORKING_END".toList 3 3,
    entry "COMMIT".toList 4 4]

/-- A program with one COMMIT; its last line comes twice. -/
theorem ppoutput_eq_sample :
    ppoutput [] commitFile commitHead
      = [.line "       WORKING-STORAGE SECTION.\n".toList,
        .ppbuff commitHead, .line "\n".toList,
        .ppbuff (commitHead.drop 1),
        .line "       PROCEDURE DIVISION.\n".toList,
        .line "OCESQL*    EXEC SQL COMMIT END-EXEC.\n".toList,
        .ppbuff (commitHead.drop 2), .line "           STOP RUN.\n".toList,
        .line "           STOP RUN.\n".toList] := by
  refine (ppoutput_eq ⟨?_, ?_, ?_⟩ ?_ ?_ []).trans ?_
  · decide
  · decide
  · decide
  · decide
  · decide
  · rfl

end Run

end CobolExercises.Precompiler
