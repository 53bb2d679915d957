/-
Which statements get their calls at all.

The pointer of `ppoutput` moves on one line only, the one behind its
statement, and by one statement. A pointer that has missed that line never
moves again: this statement and all behind it get no calls. It is missed
where the next statement ends on the same line, and where the line is the
mark at the end of an included file. The texts of the statements are
written on the one line that ends WORKING-STORAGE, and are missed where a
statement ends on the line before it. Nothing else is missed
(`emitted_eq_fromEach_iff`).
-/
import CobolExercises.Precompiler.PpOutput

namespace CobolExercises.Precompiler

open Database

-- ================================================ what the calls depend on

/-- The calls of `ppbuff`, in order. -/
def emitted (out : List Out) : List (List CbExec) :=
  out.filterMap fun o =>
    match o with
    | .line _ => none
    | .ppbuff l => some l

/-- Every statement, with those behind it. -/
def fromEach : List CbExec → List (List CbExec)
  | [] => []
  | l :: next => (l :: next) :: fromEach next

/-- What the scanner takes care of: the order of the statements, one line
for the end of WORKING-STORAGE, and words on the last line of each. -/
structure Scanned (file : List Line) (head : List CbExec) : Prop where
  place : ∀ l ∈ head, 1 ≤ l.startLine ∧ l.startLine ≤ l.endLine
    ∧ l.endLine ≤ file.length
  working : ∀ l ∈ head, l.isWorkingEnd = true → l.startLine = l.endLine
  words : ∀ l ∈ head, isMark (lineAt file l.endLine) = false
    ∧ 7 ≤ (file.getD (l.endLine - 1) []).length

/-- The line the calls go with is gone: that of the end of WORKING-STORAGE,
or the one behind the statement. -/
def CbExec.missed (marked : Nat → Bool) (late : Bool) (l : CbExec) : Bool :=
  if l.isWorkingEnd then late else marked (l.endLine + 1)

/-- Which of the statements get their calls; `late` says that the pointer
comes to the first of them on its first line or behind it. -/
def served (marked : Nat → Bool) : Bool → List CbExec → List (List CbExec)
  | _, [] => []
  | late, l :: next =>
      (if l.missed marked late then [] else [l :: next])
      ++ if marked (l.endLine + 1) then []
        else
          match next with
          | [] => []
          | t :: _ =>
              if t.endLine ≤ l.endLine then []
              else served marked (decide (t.startLine ≤ l.endLine + 1)) next

/-- Every statement ends on a later line than the one before it and has
neither a mark nor the end of WORKING-STORAGE behind it; only behind the
end of WORKING-STORAGE, and without another statement, nothing matters. -/
def Kept (marked : Nat → Bool) : List CbExec → Prop
  | [] => True
  | l :: next =>
      match next with
      | [] => l.isWorkingEnd = true ∨ marked (l.endLine + 1) = false
      | t :: _ =>
          marked (l.endLine + 1) = false ∧ l.endLine < t.endLine
            ∧ (t.isWorkingEnd = true → l.endLine + 1 < t.startLine)
            ∧ Kept marked next

section Emitted

variable {b : Line} {file rest : List Line} {l : CbExec}
  {next head : List CbExec} {n : Nat}

theorem emitted_append (out out' : List Out) :
    emitted (out ++ out') = emitted out ++ emitted out' :=
  List.filterMap_append

/-- A pointer that is behind the line behind its statement never moves
again. -/
theorem emitted_stuck (h : l.endLine < n) :
    emitted (ppoutputLoop n b (l :: next) rest) = [] := by
  have hcovers : ∀ m, n ≤ m → l.covers (m + 1) = false := fun m hm =>
    CbExec.covers_eq_false (by omega)
  induction rest generalizing n b with
  | nil =>
      rw [ppoutputLoop]
      split
      case isTrue => rfl
      case isFalse =>
          rw [ppoutputRound, hcovers n le_rfl, if_neg Bool.false_ne_true,
            if_neg (by omega)]
          rfl
  | cons line rest ih =>
      rw [ppoutputLoop]
      have hlater : ∀ m, n + 1 ≤ m → l.covers (m + 1) = false :=
        fun m hm => hcovers m (by omega)
      split
      case isTrue => exact ih (Nat.lt_succ_of_lt h) hlater
      case isFalse =>
          dsimp only
          rw [ppoutputRound, hcovers n le_rfl, if_neg Bool.false_ne_true,
            if_neg (by omega), emitted_append,
            ih (Nat.lt_succ_of_lt h) hlater]
          rfl

/-- A run of one byte does not begin in front of bytes without it. -/
theorem replicate_infix_of_append {c : Char} {k : Nat} {front text : Line}
    (hfront : c ∉ front)
    (h : List.replicate (k + 1) c <:+: front ++ text) :
    List.replicate (k + 1) c <:+: text := by
  obtain ⟨s, t, h⟩ := h
  rw [List.append_assoc, List.append_eq_append_iff] at h
  rcases h with ⟨tail, rfl, h⟩ | ⟨tail, rfl, h⟩
  · cases tail with
    | nil => exact ⟨[], t, h⟩
    | cons d tail =>
        obtain rfl : c = d := (List.cons.inj h).1
        exact absurd (by simp) hfront
  · exact ⟨tail, t, by rw [List.append_assoc, h]⟩

theorem isMark_eq_false_iff {text : Line} :
    isMark text = false
      ↔ ¬incStartMark <:+: text ∧ ¬incEndMark <:+: text := by
  rw [isMark, Bool.or_eq_false_iff, ← strstr_iff, ← strstr_iff,
    Bool.not_eq_true, Bool.not_eq_true]

/-- The first seven bytes are not part of a mark. -/
theorem isMark_comment {text : Line} (h : isMark text = false) :
    isMark ("OCESQL*".toList ++ text.drop 7) = false := by
  have hdrop {mark : Line} (hno : ¬mark <:+: text) :
      ¬mark <:+: text.drop 7 := fun hmark =>
    hno (hmark.trans (List.drop_suffix 7 text).isInfix)
  rw [isMark_eq_false_iff] at h ⊢
  exact ⟨fun hmark => hdrop h.1 (replicate_infix_of_append (by decide) hmark),
    fun hmark => hdrop h.2 (replicate_infix_of_append (by decide) hmark)⟩

/-- What is left in `inbuff` behind the last line of a statement. -/
theorem isMark_markLine {line : Line} (hnul : '\x00' ∉ line)
    (hlong : 7 ≤ line.length) (hmark : isMark (lineText line) = false)
    (eofflg : Bool) (lineNum : Nat) (l : List CbExec) :
    isMark (cstring (ppoutputRound eofflg lineNum (comReadline line b) l).inbuff)
      = false := by
  have hcases : ∀ l, markLine lineNum (comReadline line b) l
        = comReadline line b
      ∨ markLine lineNum (comReadline line b) l
        = commentOut (comReadline line b) := by
    intro l
    cases l with
    | nil => exact .inl rfl
    | cons t next =>
        rw [markLine]
        split
        · exact .inr rfl
        · exact .inl rfl
  have hread : isMark (cstring (comReadline line b)) = false := by
    rwa [cstring_comReadline hnul]
  have hmarked : ∀ l, isMark (cstring (markLine lineNum
      (comReadline line b) l)) = false := by
    intro l
    rcases hcases l with h | h
    · rw [h]
      exact hread
    · rw [h, cstring_commentOut, cstring_drop_comReadline hnul, behindLine,
        if_neg (by omega)]
      exact isMark_comment hmark
  cases l with
  | nil => exact hread
  | cons t next =>
      rw [ppoutputRound]
      split
      case isTrue => exact hmarked (t :: next)
      case isFalse =>
          split
          case isTrue => exact hmarked (advance t next)
          case isFalse => exact hread

/-- What a round says of the calls, by the statement the pointer is at. -/
theorem emitted_round (l : CbExec) (next : List CbExec) (eofflg : Bool)
    (inbuff : Line) (lineNum : Nat) :
    emitted (ppoutputRound eofflg lineNum inbuff (l :: next)).out
        = (if l.closes lineNum then [l :: next] else [])
      ∧ (ppoutputRound eofflg lineNum inbuff (l :: next)).l
        = if lineNum = l.endLine + 1 then advance l next else l :: next := by
  rw [ppoutputRound]
  split
  case isTrue hcovers =>
      have hend := (CbExec.covers_iff.mp hcovers).2
      have hne : ¬lineNum = l.endLine + 1 := by omega
      rw [CbExec.closes_of_covers hcovers, if_neg hne]
      refine ⟨?_, rfl⟩
      dsimp only
      rw [emitted_append]
      cases l.isWorkingEnd <;> rfl
  case isFalse hcovers =>
      rw [Bool.not_eq_true] at hcovers
      rw [CbExec.closes_of_covers_eq_false hcovers]
      split
      case isTrue hbehind =>
          rw [decide_eq_true hbehind, Bool.and_true]
          refine ⟨?_, rfl⟩
          dsimp only
          rw [emitted_append]
          cases l.isWorkingEnd <;> rfl
      case isFalse hbehind =>
          rw [decide_eq_false hbehind, Bool.and_false]
          exact ⟨rfl, rfl⟩

theorem Scanned.tail (hs : Scanned file (l :: next)) : Scanned file next where
  place t ht := hs.place t (List.mem_cons_of_mem l ht)
  working t ht := hs.working t (List.mem_cons_of_mem l ht)
  words t ht := hs.words t (List.mem_cons_of_mem l ht)

theorem CbExec.missed_of_end {marked : Nat → Bool} {late : Bool}
    (h : l.isWorkingEnd = true) : l.missed marked late = late :=
  if_pos h

theorem CbExec.missed_of_not_end {marked : Nat → Bool} {late : Bool}
    (h : l.isWorkingEnd = false) :
    l.missed marked late = marked (l.endLine + 1) :=
  if_neg (by rw [h]; exact Bool.false_ne_true)

/-- A mark behind its last line: the pointer stays there. -/
theorem served_of_marked {marked : Nat → Bool}
    (h : marked (l.endLine + 1) = true) :
    served marked true (l :: next) = [] := by
  have hmissed : l.missed marked true = true := by
    cases hend : l.isWorkingEnd with
    | true => exact CbExec.missed_of_end hend
    | false => rw [CbExec.missed_of_not_end hend, h]
  rw [served.eq_def]
  dsimp only
  rw [hmissed, h]
  rfl

/-- What the pointer still writes when it is on the last line of its
statement. -/
theorem served_late {marked : Nat → Bool}
    (h : marked (l.endLine + 1) = false) :
    served marked true (l :: next)
      = (if l.closes (l.endLine + 1) then [l :: next] else [])
          ++ match next with
            | [] => []
            | t :: _ =>
                if t.endLine ≤ l.endLine then []
                else served marked
                  (decide (t.startLine ≤ l.endLine + 1)) next := by
  have hcloses : l.closes (l.endLine + 1) = !l.isWorkingEnd := by
    rw [CbExec.closes_of_covers_eq_false (CbExec.covers_eq_false (by omega)),
      decide_eq_true rfl, Bool.and_true]
  have hmissed : l.missed marked true = l.isWorkingEnd := by
    cases hend : l.isWorkingEnd with
    | true => exact CbExec.missed_of_end hend
    | false => rw [CbExec.missed_of_not_end hend, h]
  rw [served.eq_def, hcloses]
  dsimp only
  rw [hmissed, h]
  cases l.isWorkingEnd <;> rfl

/-- A line in front of the last one of the statement. -/
theorem served_early (marked : Nat → Bool)
    (hworking : l.isWorkingEnd = true → l.startLine = l.endLine)
    (hn : n < l.endLine) :
    served marked (decide (l.startLine ≤ n)) (l :: next)
      = (if l.closes (n + 1) then [l :: next] else [])
        ++ served marked (decide (l.startLine ≤ n + 1)) (l :: next) := by
  rw [served.eq_def, served.eq_def]
  dsimp only
  cases hend : l.isWorkingEnd with
  | true =>
      have hstart := hworking hend
      have hearly : decide (l.startLine ≤ n) = false :=
        decide_eq_false (by omega)
      have hcloses : l.closes (n + 1) = decide (l.startLine ≤ n + 1) := by
        rw [CbExec.closes, if_pos hend, CbExec.covers,
          decide_eq_true (p := n + 1 ≤ l.endLine) hn, Bool.and_true]
      rw [CbExec.missed_of_end hend, CbExec.missed_of_end hend, hearly,
        hcloses]
      cases decide (l.startLine ≤ n + 1) <;> simp
  | false =>
      have hcloses : l.closes (n + 1) = false := by
        rw [CbExec.closes, hend, if_neg Bool.false_ne_true]
        exact decide_eq_false (by omega)
      rw [CbExec.missed_of_not_end hend, CbExec.missed_of_not_end hend,
        hcloses]
      rfl

/-- From any line up to the last one of the statement the pointer is at. -/
theorem emitted_ppoutputLoop (hs : Scanned file (l :: next))
    (hnul : ∀ line ∈ file, '\x00' ∉ line) (hrest : file.drop n = rest)
    (hn : n ≤ l.endLine)
    (hb : l.endLine = n → isMark (cstring b) = false) :
    emitted (ppoutputLoop n b (l :: next) rest)
      = served (fun m => isMark (lineAt file m)) (decide (l.startLine ≤ n))
          (l :: next) := by
  induction rest generalizing n b l next with
  | nil =>
      have hlen : file.length ≤ n := List.drop_eq_nil_iff.mp hrest
      obtain ⟨_, hstart, hend⟩ := hs.place l List.mem_cons_self
      -- the file has ended, so the statement ends on its last line
      obtain rfl : l.endLine = n := by omega
      have hnone : lineAt file (l.endLine + 1) = [] := by
        rw [lineAt, List.getD_eq_default _ _ (by omega)]
        rfl
      rw [ppoutputLoop, hb rfl, if_neg Bool.false_ne_true,
        (emitted_round _ _ true b _).1, decide_eq_true hstart,
        served_late (by rw [hnone]; decide)]
      cases next with
      | nil => exact (List.append_nil _).symm
      | cons t next =>
          have ht : t.endLine ≤ l.endLine :=
            (hs.place t (by simp)).2.2.trans hlen
          dsimp only
          rw [if_pos ht, List.append_nil]
  | cons line rest ih =>
      have hmem : line ∈ file :=
        List.mem_of_mem_drop (hrest ▸ List.mem_cons_self)
      have hnext : file.drop (n + 1) = rest := by
        rw [← List.drop_drop, hrest]
        rfl
      have hget : file.getD n [] = line := by
        rw [List.getD_eq_getElem?_getD, ← List.head?_drop, hrest]
        rfl
      have hline : lineAt file (n + 1) = lineText line :=
        congrArg lineText hget
      have hstart := (hs.place l List.mem_cons_self).2.1
      rw [ppoutputLoop, cstring_comReadline (hnul line hmem)]
      split
      case isTrue hmark =>
          by_cases hlast : l.endLine = n
          · subst hlast
            -- a mark behind the statement: the pointer never leaves it
            rw [emitted_stuck (Nat.lt_succ_self _), decide_eq_true hstart,
              served_of_marked (by rw [hline]; exact hmark)]
          · -- the statement has no calls on a mark
            have hne : l.endLine ≠ n + 1 := by
              intro heq
              have hwords := (hs.words l List.mem_cons_self).1
              rw [heq, hline, hmark] at hwords
              cases hwords
            have hcloses : l.closes (n + 1) = false := by
              unfold CbExec.closes
              split
              case isTrue hend =>
                  have := hs.working l List.mem_cons_self hend
                  exact CbExec.covers_eq_false (by omega)
              case isFalse => exact decide_eq_false (by omega)
            rw [served_early _ (hs.working l List.mem_cons_self) (by omega),
              hcloses]
            exact ih hs hnext (by omega) fun h => absurd h hne
      case isFalse hmark =>
          rw [Bool.not_eq_true] at hmark
          -- no mark, so the line takes part in the round
          obtain ⟨hout, hl⟩ := emitted_round l next false
            (comReadline line b) (n + 1)
          have hinbuff hlong hmark := isMark_markLine (b := b)
            (hnul line hmem) hlong hmark false (n + 1) (l :: next)
          dsimp only
          rw [emitted_append, hout, hl]
          by_cases hlast : l.endLine = n
          · subst hlast
            rw [if_pos rfl, decide_eq_true hstart,
              served_late (by rw [hline]; exact hmark)]
            congr 1
            cases next with
            | nil => exact emitted_stuck (Nat.lt_succ_self _)
            | cons t next =>
                dsimp only [advance]
                split
                case isTrue hle => exact emitted_stuck (by omega)
                case isFalse hle =>
                    refine ih hs.tail hnext (by omega) fun heq => ?_
                    have hwords := (hs.words t (by simp)).2
                    rw [heq, Nat.add_sub_cancel, hget] at hwords
                    exact hinbuff hwords hmark
          · have hne : ¬n + 1 = l.endLine + 1 := by omega
            rw [if_neg hne, served_early _ (hs.working l List.mem_cons_self) (by omega)]
            congr 1
            refine ih hs hnext (by omega) fun heq => ?_
            have hwords := (hs.words l List.mem_cons_self).2
            rw [heq, Nat.add_sub_cancel, hget] at hwords
            exact hinbuff hwords hmark

/-- Only statements from the pointer on get their calls. -/
theorem length_le_of_mem_served {marked : Nat → Bool} {late : Bool}
    {l x : List CbExec} (h : x ∈ served marked late l) :
    x.length ≤ l.length := by
  induction l generalizing late with
  | nil => cases h
  | cons l next ih =>
      rw [served.eq_def] at h
      dsimp only at h
      rcases List.mem_append.mp h with h | h
      · split at h
        · cases h
        · rw [List.mem_singleton.mp h]
      · split at h
        · cases h
        · cases next with
          | nil => cases h
          | cons t next =>
              dsimp only at h
              split at h
              · cases h
              · exact (ih h).trans (Nat.le_succ _)

theorem CbExec.missed_eq_false_iff {marked : Nat → Bool} {late : Bool} :
    l.missed marked late = false
      ↔ (l.isWorkingEnd = true → late = false)
        ∧ (l.isWorkingEnd = true ∨ marked (l.endLine + 1) = false) := by
  cases hend : l.isWorkingEnd with
  | true => simp [CbExec.missed_of_end hend]
  | false => simp [CbExec.missed_of_not_end hend]

/-- Every statement gets its calls exactly when none is missed. -/
theorem served_eq_fromEach_iff {marked : Nat → Bool} {late : Bool} :
    served marked late (l :: next) = fromEach (l :: next)
      ↔ (l.isWorkingEnd = true → late = false)
        ∧ Kept marked (l :: next) := by
  induction next generalizing l late with
  | nil =>
      rw [Kept, ← CbExec.missed_eq_false_iff, served.eq_def, fromEach,
        fromEach]
      dsimp only
      cases l.missed marked late <;> simp
  | cons t next ih =>
      have hcond : (t.isWorkingEnd = true
            → decide (t.startLine ≤ l.endLine + 1) = false)
          ↔ (t.isWorkingEnd = true → l.endLine + 1 < t.startLine) := by
        rw [decide_eq_false_iff_not, Nat.not_le]
      have hnil : ([] : List (List CbExec)) ≠ fromEach (t :: next) :=
        (List.cons_ne_nil _ _).symm
      rw [Kept, fromEach, served.eq_def]
      dsimp only
      cases hm : l.missed marked late with
      | true =>
          -- what is written is too short to be the first statement
          rw [if_pos rfl, List.nil_append]
          refine iff_of_false (fun h => ?_) fun h => ?_
          · split at h
            · cases h
            · split at h
              · cases h
              · have hmem : l :: t :: next ∈ served marked
                    (decide (t.startLine ≤ l.endLine + 1)) (t :: next) := by
                  rw [h]
                  exact List.mem_cons_self
                exact absurd (length_le_of_mem_served hmem) (by simp)
          · have hnot := CbExec.missed_eq_false_iff.mpr ⟨h.1, .inr h.2.1⟩
            exact Bool.noConfusion (hm.symm.trans hnot)
      | false =>
          rw [if_neg Bool.false_ne_true, List.singleton_append,
            List.cons.injEq, and_iff_right rfl,
            and_iff_right (CbExec.missed_eq_false_iff.mp hm).1]
          split
          case isTrue hmark =>
              exact iff_of_false hnil fun h =>
                Bool.noConfusion (hmark.symm.trans h.1)
          case isFalse hmark =>
              rw [Bool.not_eq_true] at hmark
              rw [and_iff_right hmark]
              split
              case isTrue hle =>
                  exact iff_of_false hnil fun h => absurd h.1 (by omega)
              case isFalse hlt =>
                  rw [and_iff_right (Nat.lt_of_not_le hlt), ih, hcond]

/-- A program without statements. -/
theorem emitted_nil (inbuff : Line) :
    emitted (ppoutput inbuff file []) = [] := by
  have hloop : ∀ n b, emitted (ppoutputLoop n b [] file) = [] := by
    induction file with
    | nil =>
        intro n b
        rw [ppoutputLoop]
        split <;> rfl
    | cons line file ih =>
        intro n b
        rw [ppoutputLoop]
        split
        · exact ih _ _
        · exact ih _ _
  exact hloop 0 inbuff

/-- The precompiler writes the calls of every statement, once and in order,
exactly when the pointer never misses the line behind one. -/
theorem emitted_eq_fromEach_iff (hs : Scanned file head)
    (hnul : ∀ line ∈ file, '\x00' ∉ line) (inbuff : Line) :
    emitted (ppoutput inbuff file head) = fromEach head
      ↔ Kept (fun n => isMark (lineAt file n)) head := by
  cases head with
  | nil => exact iff_of_true (emitted_nil inbuff) trivial
  | cons l next =>
      have hstart := (hs.place l List.mem_cons_self).1
      have hnone : ¬l.startLine ≤ 0 := by omega
      rw [ppoutput, emitted_ppoutputLoop hs hnul (List.drop_zero ..)
        (Nat.zero_le _) (fun h => by
          have := (hs.place l List.mem_cons_self).2.1
          omega), decide_eq_false hnone, served_eq_fromEach_iff]
      exact and_iff_right fun _ => rfl

instance Kept.decidable (marked : Nat → Bool) :
    (l : List CbExec) → Decidable (Kept marked l)
  | [] => .isTrue trivial
  | [_] => inferInstanceAs (Decidable (_ ∨ _))
  | _ :: t :: next =>
      have : Decidable (Kept marked (t :: next)) :=
        Kept.decidable marked (t :: next)
      inferInstanceAs (Decidable (_ ∧ _ ∧ _ ∧ _))

/-- The program of above without its blank line: the texts of the statements
are not written. -/
theorem emitted_eq_fromEach_iff_sample :
    emitted (ppoutput [] (commitFile.eraseIdx 1)
      [entry "WORKING_BEGIN".toList 1 1, entry "WORKING_END".toList 2 2,
        entry "COMMIT".toList 3 3])
      ≠ fromEach [entry "WORKING_BEGIN".toList 1 1,
        entry "WORKING_END".toList 2 2, entry "COMMIT".toList 3 3] := by
  refine mt (emitted_eq_fromEach_iff ⟨?_, ?_, ?_⟩ ?_ []).mp ?_
  · decide
  · decide
  · decide
  · decide
  · decide

end Emitted

end CobolExercises.Precompiler
