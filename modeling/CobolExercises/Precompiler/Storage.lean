/-
The lines of `outsqlfiller`, read back.

# Sizes

Whatever the cuts, an item is as long as it is said to be and no line is
wider than column 72 (`Fed`, `sqlItem_reads`). An item whose text ends with
a line gets its period on a line of its own.

# Records

So a COBOL compiler reads the very text of each statement, under its name,
with a zero byte behind it (`storage_outsqlfiller`), as long as the text has
no quote in it.
-/
import CobolExercises.Precompiler.SqlString

namespace CobolExercises.Precompiler

open Lib Quoted

-- ======================================================= reading a line

/-- Reading the lines takes a reader from `r` to `r'`. -/
def Reads (lines : List Line) (r r' : Reading) : Prop :=
  ∃ ts, tokens lines = some ts
    ∧ ∀ rest, recordsFrom r (ts ++ rest) = recordsFrom r' rest

/-- No lines, nothing read. -/
theorem Reads.nil (r : Reading) : Reads [] r r := ⟨[], rfl, fun _ => rfl⟩

/-- Lines are read one after the other. -/
theorem Reads.append {lines lines' : List Line} {r r' r'' : Reading}
    (h : Reads lines r r') (h' : Reads lines' r' r'') :
    Reads (lines ++ lines') r r'' := by
  obtain ⟨ts, hts, hread⟩ := h
  obtain ⟨ts', hts', hread'⟩ := h'
  refine ⟨ts ++ ts', tokens_append hts hts', fun rest => ?_⟩
  rw [List.append_assoc, hread, hread']

/-- A line is read if its words are. -/
theorem reads_line {line : Line} {ts : List Token} {r r' : Reading}
    (h : lex (area line) = some ts)
    (hread : ∀ rest, recordsFrom r (ts ++ rest) = recordsFrom r' rest) :
    Reads [line] r r' := by
  refine ⟨ts, ?_, hread⟩
  rw [tokens, h, tokens, Option.bind_some, Option.map_some, List.append_nil]

/-- The period at the end of an item. -/
def period (eof : Bool) : Line := if eof then ['.'] else []

/-- The reader behind a literal, or behind the period after it. -/
def behind (eof : Bool) (name bytes : Line) (n : Nat) (value : Line) :
    Reading :=
  if eof then .items name (bytes ++ Blank.fit ' ' n value)
  else .value name bytes n value

/-- The period of the last line is a word of its own. -/
theorem lexFrom_period (eof : Bool) :
    lexFrom .between (period eof)
      = some (if eof then [.word ['.']] else []) := by
  cases eof <;> rfl

/-- And ends the item. -/
theorem recordsFrom_behind (eof : Bool) (name bytes : Line) (n : Nat)
    (value : Line) (rest : List Token) :
    recordsFrom (.value name bytes n value)
        ((if eof then [.word ['.']] else []) ++ rest)
      = recordsFrom (behind eof name bytes n value) rest := by
  cases eof with
  | true => exact recordsFrom_period name bytes n value rest
  | false => rfl

/-- Lines that start with `OCESQL` are text from column 8 on. -/
theorem area_ocesql {c : Char} {line : Line} (hstar : c ≠ '*')
    (hlen : line.length ≤ 65) :
    area ('O' :: 'C' :: 'E' :: 'S' :: 'Q' :: 'L' :: c :: line) = line := by
  refine (if_neg hstar).trans ?_
  exact List.take_of_length_le hlen

theorem moreStart_eq : moreStart
    = ['O', 'C', 'E', 'S', 'Q', 'L', ' ', ' ', '&', ' ', ' ', '"'] := rfl

theorem itemStart_eq (count : Line) : itemStart count
    = 'O' :: 'C' :: 'E' :: 'S' :: 'Q' :: 'L' :: ' ' :: ' ' :: ' ' :: ' '
      :: ' ' :: '0' :: '2' :: ' ' :: ' ' :: 'F' :: 'I' :: 'L' :: 'L' :: 'E'
      :: 'R' :: ' ' :: 'P' :: 'I' :: 'C' :: ' ' :: 'X' :: '('
      :: (count ++ [')', ' ', 'V', 'A', 'L', 'U', 'E', ' ', '"']) := rfl

variable {chunk name bytes value : Line} {eof : Bool} {n : Nat}

/-- A further literal of an item. -/
theorem reads_more (hquote : '"' ∉ chunk)
    (hlen : chunk.length + (period eof).length ≤ 59) :
    Reads [moreStart ++ chunk ++ ['"'] ++ period eof]
      (.value name bytes n value)
      (behind eof name bytes n (value ++ chunk)) := by
  have hlex : lex (area (moreStart ++ chunk ++ ['"'] ++ period eof))
      = some (.word ['&'] :: .quoted chunk
        :: if eof then [.word ['.']] else []) := by
    simp only [moreStart_eq, List.append_assoc, List.cons_append,
      List.nil_append]
    rw [area_ocesql (by decide) (by simp; omega), lex]
    simp [lexFrom, lexFrom_quoted hquote, lexFrom_period]
  refine reads_line hlex fun rest => ?_
  rw [List.cons_append, List.cons_append, recordsFrom_more]
  exact recordsFrom_behind eof name bytes n (value ++ chunk) rest

/-- What stands for a size in `X(n)`. -/
structure Counts (count : Line) (n : Nat) : Prop where
  length : count.length = 3
  blank : ' ' ∉ count
  mark : '"' ∉ count
  size : pictureSize ('X' :: '(' :: (count ++ [')'])) = some n

instance (count : Line) (n : Nat) : Decidable (Counts count n) :=
  decidable_of_iff (count.length = 3 ∧ ' ' ∉ count ∧ '"' ∉ count
      ∧ pictureSize ('X' :: '(' :: (count ++ [')'])) = some n)
    ⟨fun ⟨hlen, hblank, hmark, hsize⟩ => ⟨hlen, hblank, hmark, hsize⟩,
      fun h => ⟨h.length, h.blank, h.mark, h.size⟩⟩

/-- `sqCount` writes a length below 256 in three digits. -/
theorem counts_sqCount : ∀ i < 256, 0 < i → Counts (sqCount i) i := by
  decide +kernel

/-- The size of an item, up to the blank behind it. -/
theorem Counts.lexFrom {count : Line} (h : Counts count n) (cs : Line) :
    lexFrom (.word ['(', 'X']) (count ++ ')' :: ' ' :: cs)
      = (lexFrom .between cs).map
        (.word ('X' :: '(' :: (count ++ [')'])) :: ·) := by
  have hword := lexFrom_word (w := count ++ [')'])
    (by simp [h.blank]) (by simp [h.mark]) ['(', 'X'] cs
  rwa [List.append_assoc] at hword

/-- The first line of an item. -/
theorem reads_start {count : Line} (hcount : Counts count n)
    (hquote : '"' ∉ chunk)
    (hfit : chunk.length + (period eof).length ≤ 31) :
    Reads [itemStart count ++ chunk ++ ['"'] ++ period eof]
      (.items name bytes) (behind eof name bytes n chunk) := by
  have hlex : lex (area (itemStart count ++ chunk ++ ['"'] ++ period eof))
      = some (.word ['0', '2'] :: .word ['F', 'I', 'L', 'L', 'E', 'R']
        :: .word ['P', 'I', 'C'] :: .word ('X' :: '(' :: (count ++ [')']))
        :: .word ['V', 'A', 'L', 'U', 'E'] :: .quoted chunk
        :: if eof then [.word ['.']] else []) := by
    simp only [itemStart_eq, List.append_assoc, List.cons_append,
      List.nil_append]
    rw [area_ocesql (by decide) (by simp [hcount.length]; omega),
      lex]
    simp [Quoted.lexFrom, hcount.lexFrom, lexFrom_quoted hquote,
      lexFrom_period]
  refine reads_line hlex fun rest => ?_
  simp only [List.cons_append]
  refine (recordsFrom_item name bytes n _ _ hcount.size).trans ?_
  exact recordsFrom_behind eof name bytes n chunk rest

/-- A period on a line of its own. -/
theorem reads_terminal :
    Reads ["OCESQL     .".toList] (.value name bytes n value)
      (.items name (bytes ++ Blank.fit ' ' n value)) := by
  have hlex : lex (area "OCESQL     .".toList) = some [.word ['.']] := rfl
  exact reads_line hlex (recordsFrom_period name bytes n value)

/-- The last line of a statement puts the zero byte behind its text. -/
theorem reads_endLine :
    Reads [endLine] (.items name bytes)
      (.items name (bytes ++ ['\x00'])) := by
  have hlex : lex (area endLine)
      = some [.word ['0', '2'], .word ['F', 'I', 'L', 'L', 'E', 'R'],
        .word ['P', 'I', 'C'], .word ['X', '(', '1', ')'],
        .word ['V', 'A', 'L', 'U', 'E'], .word ['X'],
        .quoted ['0', '0'], .word ['.']] := rfl
  exact reads_line hlex (recordsFrom_zero name bytes)

-- ======================================================== the lines written

/-- Where `sql_string` is in an item: `taken` is what it has written of
`text`, on lines for `full` bytes with one more on some of them. -/
structure Fed (text : Line) (full : Nat) (taken : Line) (p : Place) :
    Prop where
  split : taken ++ p.sqlloop = text
  done : p.eofflg = true → p.sqlloop = []
  room : p.eofflg = false → taken.length = full + p.charcount
  brief : taken.length ≤ full + p.charcount
  few : 30 * p.charcount ≤ full

variable {text taken start : Line} {full len : Nat} {p : Place}

/-- Behind the end of the text the other lines of the item stay empty. -/
theorem Fed.wait (h : Fed text full taken p) (hp : p.eofflg = true)
    (len : Nat) : Fed text (full + len) taken p where
  split := h.split
  done := h.done
  room hp' := by rw [hp] at hp'; cases hp'
  brief := by have := h.brief; omega
  few := by have := h.few; omega

/-- A line with a literal on it. -/
theorem Fed.fillLine (h : Fed text full taken p) (hp : p.eofflg = false)
    (hstart : start.length + len = 70) (hlen : 30 ≤ len) :
    ∃ chunk p', fillLine start len p
        = (start ++ chunk ++ ['"'] ++ period p'.eofflg, p')
      ∧ Fed text (full + len) (taken ++ chunk) p'
      ∧ chunk.length + (period p'.eofflg).length ≤ len + 1
      ∧ (p'.eofflg = false → len ≤ chunk.length) := by
  have hroom := h.room hp
  have hfew := h.few
  rw [Precompiler.fillLine, if_neg (by simp [hp])]
  rcases substring_cases len p.sqlloop false with ⟨hle, hcut⟩
    | ⟨hlt, dex, hdex, hcut⟩
  · -- the rest of the text
    have hline : (start ++ p.sqlloop ++ ['"']).length ≤ 71 := by
      simp; omega
    refine ⟨p.sqlloop, ⟨[], true, p.charcount⟩, ?_, ?_, ?_, Bool.noConfusion⟩
    · rw [hcut]
      simp only [if_neg (show (start ++ p.sqlloop ++ ['"']).length ≠ 72
        by omega)]
      rw [List.take_of_length_le (by omega)]
      rfl
    · refine ⟨by simp [h.split], fun _ => rfl, Bool.noConfusion, ?_, ?_⟩
      · simp; omega
      · simp; omega
    · simpa [period] using hle
  -- a literal that is cut may take one byte more, to keep two that belong
  -- together
  · have hdex' : dex = len ∨ dex = len + 1 := hdex
    have hchunk : (p.sqlloop.take dex).length = dex := by
      rw [List.length_take]; omega
    have hline : (start ++ p.sqlloop.take dex ++ ['"']).length
        = start.length + dex + 1 := by
      simp; omega
    refine ⟨p.sqlloop.take dex, ⟨p.sqlloop.drop dex, false,
      if dex = len + 1 then p.charcount + 1 else p.charcount⟩,
      ?_, ?_, ?_, fun _ => by omega⟩
    · rw [hcut]
      simp only
      rw [hline, List.take_of_length_le (by omega)]
      simp only [period, show start.length + dex + 1 = 72 ↔ dex = len + 1
        by omega]
    · refine ⟨by simp [h.split], Bool.noConfusion, fun _ => ?_, ?_, ?_⟩
      · simp only [List.length_append, hchunk]
        split <;> omega
      · simp only [List.length_append, hchunk]
        split <;> omega
      · simp only
        split <;> omega
    · rw [hchunk]
      simp [period]
      omega

/-- A line with a piece of the text is not broken. -/
theorem outLine_more {chunk : Line} (hquote : '"' ∉ chunk)
    (hne : chunk ≠ []) (eof : Bool) :
    outLine (moreStart ++ chunk ++ ['"'] ++ period eof)
      = [moreStart ++ chunk ++ ['"'] ++ period eof] := by
  obtain ⟨c, cs, rfl⟩ := List.exists_cons_of_ne_nil hne
  have hc : c ≠ '"' := fun h => hquote (h ▸ List.mem_cons_self)
  simp only [moreStart_eq, List.append_assoc, List.cons_append,
    List.nil_append]
  rw [outLine, if_neg, if_pos]
  · simp
  · intro h
    have h12 := congrArg (·.getD 12 ' ') h
    exact hc h12

/-- A further line that is written, read; one without text is a period. -/
theorem reads_outLine (hquote : '"' ∉ chunk)
    (hempty : chunk = [] → eof = true)
    (hlen : chunk.length + (period eof).length ≤ 59) :
    Reads (outLine (moreStart ++ chunk ++ ['"'] ++ period eof))
      (.value name bytes n value)
      (behind eof name bytes n (value ++ chunk)) := by
  by_cases hne : chunk = []
  · obtain rfl := hempty hne
    rw [hne, List.append_nil, List.append_nil]
    exact reads_terminal
  · rw [outLine_more hquote hne]
    exact reads_more hquote hlen

/-- The last line of an item fills it up. -/
theorem reads_outLine_last (hquote : '"' ∉ chunk)
    (hlen : chunk.length ≤ 58) :
    Reads (outLine (moreStart ++ chunk ++ ['"'] ++ ['.']))
      (.value name bytes n value)
      (.items name (bytes ++ Blank.fit ' ' n (value ++ chunk))) := by
  have hend : chunk.length + (period true).length ≤ 59 :=
    Nat.add_le_add_right hlen 1
  exact reads_outLine hquote (fun _ => rfl) hend

/-- `sqlstr[1]` to `sqlstr[3]`. -/
theorem Fed.more (h : Fed text full taken p) (hquote : '"' ∉ text) :
    ∃ chunk, Fed text (full + 58) (taken ++ chunk)
        (Precompiler.fillLine moreStart 58 p).2
      ∧ ∀ name bytes n,
        Reads (outLine (Precompiler.fillLine moreStart 58 p).1)
          (behind p.eofflg name bytes n taken)
          (behind (Precompiler.fillLine moreStart 58 p).2.eofflg name bytes
            n (taken ++ chunk)) := by
  cases hp : p.eofflg with
  | true =>
      rw [Precompiler.fillLine, if_pos hp]
      refine ⟨[], ?_, fun name bytes n => ?_⟩
      · rw [List.append_nil]
        exact h.wait hp 58
      · rw [List.append_nil, hp]
        exact Reads.nil _
  | false =>
      obtain ⟨chunk, p', heq, hfed, hlen, hfull⟩ :=
        h.fillLine hp (show moreStart.length + 58 = 70 from rfl) (by decide)
      rw [heq]
      refine ⟨chunk, hfed, fun name bytes n => reads_outLine ?_ ?_ hlen⟩
      · intro hmem
        refine hquote ?_
        rw [← hfed.split]
        simp [hmem]
      · intro hnil
        cases heof : p'.eofflg with
        | true => rfl
        | false =>
            have := hfull heof
            simp [hnil] at this

/-- `sqlstr[4]`: the item is over, and as long as it is said to be. -/
structure Fed.Last (text taken chunk : Line) (p : Place)
    (r : Line × Place × Bool) : Prop where
  split : taken ++ chunk ++ r.2.1.sqlloop = text
  done : r.2.1.eofflg = true → r.2.1.sqlloop = [] ∧ text.length ≤ 256
    ∧ r.2.2 = false
  more : r.2.1.eofflg = false → 256 < text.length
    ∧ (taken ++ chunk).length = if r.2.2 then 255 else 256
  reads : ∀ name bytes n, Reads (outLine r.1)
    (behind p.eofflg name bytes n taken)
    (.items name (bytes ++ Blank.fit ' ' n (taken ++ chunk)))

/-- The line that takes what is left ends the item. -/
theorem Fed.last (h : Fed text 204 taken p) (hquote : '"' ∉ text) :
    ∃ chunk, Fed.Last text taken chunk p (fillLast p) := by
  have hbrief := h.brief
  have hfew := h.few
  cases hp : p.eofflg with
  | true =>
      -- the text ended on an earlier line
      rw [fillLast, if_pos hp]
      have hdone := h.done hp
      have htaken : taken = text := by rw [← h.split, hdone, List.append_nil]
      refine ⟨[], by simp [h.split], fun _ => ⟨hdone, ?_, rfl⟩,
        fun hp' => ?_, fun name bytes n => ?_⟩
      · rw [← htaken]
        omega
      · exact absurd hp (by simp [show p.eofflg = false from hp'])
      · rw [hp, List.append_nil]
        exact Reads.nil _
  | false =>
      have hroom := h.room hp
      have hlen : text.length = taken.length + p.sqlloop.length := by
        rw [← h.split, List.length_append]
      have hq : '"' ∉ p.sqlloop := fun hmem => hquote (by
        rw [← h.split]; exact List.mem_append_right _ hmem)
      have hline : ∀ chunk : Line, chunk.length ≤ 52 →
          (moreStart ++ chunk ++ ['"']).take 72
            = moreStart ++ chunk ++ ['"'] := by
        intro chunk hchunk
        refine List.take_of_length_le ?_
        simp [moreStart_eq]
        omega
      rw [fillLast, if_neg (by simp [hp])]
      rcases substring_cases (52 - p.charcount) p.sqlloop true with
        ⟨hle, hcut⟩ | ⟨hlt, dex, hdex, hcut⟩
      -- it ends on this line
      · refine ⟨p.sqlloop, ?_⟩
        simp only [hcut, hline p.sqlloop (by omega)]
        refine ⟨by simp [h.split], fun _ => ⟨rfl, by omega, by simp⟩,
          Bool.noConfusion, fun name bytes n => ?_⟩
        rw [hp]
        refine reads_outLine_last hq ?_
        omega
      -- it does not: the item is full, or full but for one byte
      · have hdex' : dex = 52 - p.charcount
            ∨ dex = 52 - p.charcount - 1 := hdex
        have hchunk : (p.sqlloop.take dex).length = dex := by
          rw [List.length_take]; omega
        refine ⟨p.sqlloop.take dex, ?_⟩
        simp only [hcut, hline (p.sqlloop.take dex) (by omega)]
        refine ⟨by simp [h.split], Bool.noConfusion, fun _ => ⟨by omega, ?_⟩,
          fun name bytes n => ?_⟩
        · simp only [List.length_append, hchunk, moreStart_eq,
            List.length_cons, List.length_nil]
          by_cases hshort : dex = 52 - p.charcount
          · rw [if_neg (by simp; omega)]
            omega
          · rw [if_pos (by simp; omega)]
            omega
        · rw [hp]
          refine reads_outLine_last (fun hmem => hq ?_) ?_
          · exact List.mem_of_mem_take hmem
          · omega

/-- The size is overwritten in place, and nothing else. -/
theorem setCount_itemStart {count : Line} (hlen : count.length = 3)
    (count' line : Line) :
    setCount count' (itemStart count ++ line) = itemStart count' ++ line := by
  obtain ⟨a, b, c, rfl⟩ := List.length_eq_three.mp hlen
  simp [setCount, itemStart_eq]

/-- The size the item ends up with is that of its literals. -/
theorem Fed.Last.counts {chunk count : Line} {r : Line × Place × Bool}
    (h : Fed.Last text taken chunk p r) (hpos : 0 < text.length)
    (hcount : count = if text.length < 256 then sqCount text.length
      else "256".toList) :
    Counts (if r.2.2 then "255".toList else count)
      (taken ++ chunk).length := by
  cases heof : r.2.1.eofflg with
  | true =>
      obtain ⟨hdone, hle, hshort⟩ := h.done heof
      have htext : taken ++ chunk = text := by
        rw [← h.split, hdone, List.append_nil]
      rw [hshort, if_neg (by decide), htext, hcount]
      split
      case isTrue hlt => exact counts_sqCount _ hlt hpos
      case isFalse hge =>
          rw [show text.length = 256 by omega]
          decide +kernel
  | false =>
      obtain ⟨hlt, hsize⟩ := h.more heof
      rw [hsize, hcount, if_neg (show ¬ text.length < 256 by omega)]
      cases r.2.2 with
      | true => exact of_decide_eq_true rfl
      | false => exact of_decide_eq_true rfl

/-- An item of a text that is not empty is not empty. -/
theorem Fed.Last.taken_ne {chunk : Line} {r : Line × Place × Bool}
    (h : Fed.Last text taken chunk p r) (hne : text ≠ []) :
    taken ++ chunk ≠ [] := by
  intro hnil
  cases heof : r.2.1.eofflg with
  | true =>
      have hsplit := h.split
      rw [hnil, (h.done heof).1] at hsplit
      exact hne hsplit.symm
  | false =>
      have hsize := (h.more heof).2
      rw [hnil, List.length_nil] at hsize
      split at hsize <;> omega

/-- If the end was not reached, there is a rest. -/
theorem Fed.Last.left_ne {chunk : Line} {r : Line × Place × Bool}
    (h : Fed.Last text taken chunk p r) (heof : r.2.1.eofflg = false) :
    r.2.1.sqlloop ≠ [] := by
  intro hnil
  obtain ⟨hlt, hsize⟩ := h.more heof
  rw [← h.split, List.length_append, hnil, List.length_nil, hsize] at hlt
  split at hlt <;> omega

/-- An item is read back with its text in it, whole. -/
theorem sqlItem_reads (hquote : '"' ∉ text) (hne : text ≠ []) :
    ∃ taken, taken ++ (sqlItem text).2.sqlloop = text ∧ taken ≠ []
      ∧ ((sqlItem text).2.eofflg = true → (sqlItem text).2.sqlloop = [])
      ∧ ((sqlItem text).2.eofflg = false → (sqlItem text).2.sqlloop ≠ [])
      ∧ ∀ name bytes, Reads (sqlItem text).1 (.items name bytes)
          (.items name (bytes ++ taken)) := by
  have hpos : 0 < text.length := List.length_pos_iff.mpr hne
  generalize hcount : (if text.length < 256 then sqCount text.length
    else "256".toList) = count
  have hlen : count.length = 3 := by
    rw [← hcount]
    split
    case isTrue h => exact (counts_sqCount _ h hpos).length
    case isFalse _ => rfl
  have hfed : Fed text 0 [] ⟨text, false, 0⟩ :=
    ⟨rfl, Bool.noConfusion, fun _ => rfl, Nat.zero_le _, Nat.zero_le _⟩
  simp only [sqlItem, hcount]
  -- the five lines
  obtain ⟨c0, p0, heq, h0, hlen0, hfull0⟩ := hfed.fillLine rfl
    (show (itemStart count).length + 30 = 70 by simp [itemStart_eq, hlen])
    le_rfl
  rw [List.nil_append] at h0
  simp only [heq]
  obtain ⟨c1, h1, hr1⟩ := h0.more hquote
  generalize fillLine moreStart 58 p0 = l1 at h1 hr1 ⊢
  obtain ⟨c2, h2, hr2⟩ := h1.more hquote
  generalize fillLine moreStart 58 l1.2 = l2 at h2 hr2 ⊢
  obtain ⟨c3, h3, hr3⟩ := h2.more hquote
  generalize fillLine moreStart 58 l2.2 = l3 at h3 hr3 ⊢
  obtain ⟨c4, h4⟩ := h3.last hquote
  generalize fillLast l3.2 = l4 at h4 ⊢
  have hcounts := h4.counts hpos hcount.symm
  have hq0 : '"' ∉ c0 := fun hmem => hquote (by
    rw [← h0.split]; exact List.mem_append_left _ hmem)
  -- the size is known only now, and set on the first line
  have hfirst : (if l4.2.2 then setCount "255".toList
        (itemStart count ++ c0 ++ ['"'] ++ period p0.eofflg)
      else itemStart count ++ c0 ++ ['"'] ++ period p0.eofflg)
      = itemStart (if l4.2.2 then "255".toList else count) ++ c0 ++ ['"']
        ++ period p0.eofflg := by
    split
    · rw [List.append_assoc, List.append_assoc, setCount_itemStart hlen,
        ← List.append_assoc, ← List.append_assoc]
    · rfl
  refine ⟨c0 ++ c1 ++ c2 ++ c3 ++ c4, h4.split, h4.taken_ne hne,
    fun heof => (h4.done heof).1, fun heof => h4.left_ne heof,
    fun name bytes => ?_⟩
  have hread := (reads_start hcounts hq0 hlen0).append
    ((((hr1 name bytes _).append (hr2 name bytes _)).append
      (hr3 name bytes _)).append (h4.reads name bytes _))
  rw [hfirst]
  rwa [Blank.fit, List.take_length, Nat.sub_self, List.replicate_zero,
    List.append_nil] at hread

/-- A text is read back with a zero byte behind it. -/
theorem sqlLoop_reads : ∀ (k : Nat) (text : Line), text.length ≤ k →
    '"' ∉ text → text ≠ [] → ∀ name bytes,
    Reads (sqlLoop text) (.items name bytes)
      (.items name (bytes ++ text ++ ['\x00'])) := by
  intro k
  induction k with
  | zero =>
      intro text hlen _ hne
      exact absurd (List.eq_nil_of_length_eq_zero (by omega)) hne
  | succ k ih =>
      intro text hlen hquote hne name bytes
      obtain ⟨taken, hsplit, htaken, hdone, hleft, hread⟩ :=
        sqlItem_reads hquote hne
      rw [sqlLoop]
      split
      case isTrue heof =>
          have hshort := length_sqlItem heof
          have hq : '"' ∉ (sqlItem text).2.sqlloop := fun hmem => hquote (by
            rw [← hsplit]; exact List.mem_append_right _ hmem)
          have hrest := ih _ (by omega) hq (hleft heof) name
            (bytes ++ taken)
          rw [List.append_assoc bytes taken, hsplit] at hrest
          exact (hread name bytes).append hrest
      case isFalse heof =>
          have htext : taken = text := by
            rw [← hsplit, hdone (by simpa using heof), List.append_nil]
          have hend := (hread name bytes).append reads_endLine
          rwa [htext] at hend

-- ============================================================ the records

/-- What the names and the texts are made of. -/
structure CbExecList.Plain (l : CbExecList) : Prop where
  blank : ' ' ∉ l.sqlName
  mark : '"' ∉ l.sqlName
  short : l.sqlName.length ≤ 60
  text : joinSql l.sqlList ≠ []
  quote : '"' ∉ joinSql l.sqlList

theorem recordLine_eq (sqlName : Line) :
    "OCESQL 01  ".toList ++ sqlName ++ ['.']
      = 'O' :: 'C' :: 'E' :: 'S' :: 'Q' :: 'L' :: ' ' :: '0' :: '1' :: ' '
        :: ' ' :: (sqlName ++ ['.']) := rfl

/-- A word that fills the rest of the line. -/
theorem lexFrom_between_word {w : Line} (hne : w ≠ []) (hblank : ' ' ∉ w)
    (hquote : '"' ∉ w) : lexFrom .between w = some [.word w] := by
  obtain ⟨c, cs, rfl⟩ := List.exists_cons_of_ne_nil hne
  obtain ⟨hc, hcs⟩ := List.ne_and_not_mem_of_not_mem_cons hblank
  obtain ⟨hc', hcs'⟩ := List.ne_and_not_mem_of_not_mem_cons hquote
  rw [lexFrom, if_neg (Ne.symm hc), if_neg (Ne.symm hc'),
    lexFrom_word_end hcs hcs']
  rfl

/-- The tokens of the line that starts a record. -/
theorem tokens_record {l : CbExecList} (h : l.Plain) :
    tokens ["OCESQL 01  ".toList ++ l.sqlName ++ ['.']]
      = some [.word ['0', '1'], .word (l.sqlName ++ ['.'])] := by
  have hshort := h.short
  have hname := lexFrom_between_word (w := l.sqlName ++ ['.']) (by simp)
    (by simp [h.blank]) (by simp [h.mark])
  rw [tokens, recordLine_eq, area_ocesql (by decide) (by simp; omega), lex]
  simp [lexFrom, hname, tokens]

/-- The records of the statements with a text. -/
def sqlRecords (ls : List CbExecList) : List (Line × Line) :=
  (ls.filter (·.sqlList ≠ [])).map fun l =>
    (l.sqlName, joinSql l.sqlList ++ ['\x00'])

/-- The records, behind another one and on their own. -/
theorem outsqlfillerFrom_reads {ls : List CbExecList}
    (h : ∀ l ∈ ls, l.sqlList ≠ [] → l.Plain) :
    ∃ ts, tokens (outsqlfillerFrom ls) = some ts
      ∧ (∀ name bytes, recordsFrom (.items name bytes) ts
        = some ((name, bytes) :: sqlRecords ls))
      ∧ records ts = some (sqlRecords ls) := by
  induction ls with
  | nil => exact ⟨[], rfl, fun name bytes => by
      rw [recordsFrom]; rfl, rfl⟩
  | cons l ls ih =>
      obtain ⟨ts, hts, hfrom, hrec⟩ :=
        ih fun l' hl' => h l' (List.mem_cons_of_mem _ hl')
      -- a statement without a text has no record
      by_cases hnil : l.sqlList = []
      · rw [outsqlfillerFrom, if_pos hnil,
          show sqlRecords (l :: ls) = sqlRecords ls by
            simp [sqlRecords, hnil]]
        exact ⟨ts, hts, hfrom, hrec⟩
      · have hplain := h l List.mem_cons_self hnil
        obtain ⟨item, hitem, hread⟩ := sqlLoop_reads _
          (joinSql l.sqlList) le_rfl hplain.quote hplain.text l.sqlName []
        have hname : (l.sqlName ++ ['.']).dropLast = l.sqlName :=
          List.dropLast_concat
        have hrecords : recordsFrom (.items l.sqlName []) (item ++ ts)
            = some (sqlRecords (l :: ls)) := by
          rw [hread, hfrom]
          simp [sqlRecords, hnil]
        rw [outsqlfillerFrom, if_neg hnil]
        refine ⟨.word ['0', '1'] :: .word (l.sqlName ++ ['.'])
          :: (item ++ ts), ?_, fun name bytes => ?_, ?_⟩
        · have hcomment : tokens ("OCESQL*".toList :: outsqlfillerFrom ls)
              = some ts := by
            rw [tokens, hts]
            rfl
          exact tokens_append (tokens_record hplain)
            (tokens_append hitem hcomment)
        · refine (recordsFrom_record name bytes _ _).trans ?_
          rw [hname, hrecords]
          rfl
        · refine (records_record _ _).trans ?_
          rw [hname]
          exact hrecords

/-- What a COBOL compiler makes of the lines: the text of each statement
under its name, with a zero byte behind it. -/
theorem storage_outsqlfiller {ls : List CbExecList}
    (h : ∀ l ∈ ls, l.sqlList ≠ [] → l.Plain) :
    storage (outsqlfiller ls) = some (sqlRecords ls) := by
  obtain ⟨ts, hts, _, hrec⟩ := outsqlfillerFrom_reads h
  rw [storage, outsqlfiller, tokens, hts]
  exact hrec

/-- A statement of `helloworld.cbl`. -/
def createMessages : CbExecList where
  sqlName := "SQ0002".toList
  sqlList := ["CREATE".toList, "TABLE".toList, "messages".toList,
    "(".toList, "message_id".toList, "SERIAL".toList, "PRIMARY".toList,
    "KEY".toList, ",".toList, "message_content".toList,
    "VARCHAR(255)".toList, ")".toList]

example : (sqlItem (joinSql createMessages.sqlList)).1
    = ["OCESQL     02  FILLER PIC X(085) VALUE \"".toList
        ++ "CREATE TABLE messages ( messag\"".toList,
      "OCESQL  &  \"e_id SERIAL PRIMARY KEY, message_content ".toList
        ++ "VARCHAR(255) )\".".toList] := by
  decide +kernel

/-- The CREATE of the repository, read back. -/
theorem storage_outsqlfiller_sample :
    storage (outsqlfiller [createMessages])
      = some [("SQ0002".toList,
        "CREATE TABLE messages ( message_id SERIAL PRIMARY KEY".toList
          ++ ", message_content VARCHAR(255) )\x00".toList)] := by
  refine (storage_outsqlfiller (by
    rintro l hl _
    obtain rfl := List.mem_singleton.mp hl
    exact ⟨by decide, by decide, by decide, by decide +kernel,
      by decide +kernel⟩)).trans ?_
  decide +kernel

end CobolExercises.Precompiler
