/-
What is left of a statement on its way to the server: its text, its
parameters, and the statements that are lost.

# Parameters

Host variables leave the text as `$1`, `$2` and so on and come back from
the list of host variables by their numbers (`map_bindHost_sqlList`). The
values go along in the same order: what the runtime keeps between
`OCESQLStartSQL` and `OCESQLEndSQL` is nowhere to be seen behind it, and a
statement with host variables is one request (`execCalls_execParams`).

# Words in lower case

The scanner takes a word in any case and keeps it as it is; `ppbuff`
compares it as it is. A statement that starts with `insert`, or the SELECT
of a cursor in lower case, is commented out of the program and leaves no
call behind, and no message (`ppbuff_eq_nil_iff`).
-/
import CobolExercises.Precompiler.Program

namespace CobolExercises.Precompiler

open Lib.Traverse CobolExercises.Runtime Database

-- ============================================================= parameters

/-- The number behind a dollar sign. -/
def parameterNumber : Line → Option Nat
  | '$' :: digits =>
      if digits ≠ [] ∧ digits.all Char.isDigit then
        some (Nat.ofDigitChars 10 digits 0)
      else none
  | _ => none

/-- A parameter as the host variable with its number; any other word as it
is. -/
def bindHost (hosts : List Line) (word : Line) : Line :=
  match parameterNumber word with
  | some (k + 1) => (hosts[k]?).elim word (':' :: ·)
  | _ => word

/-- A statement with a text: its first word and what is behind it. -/
def Statement.text : Statement → Option (Line × List SqlItem)
  | .sql keyword items => some (keyword, items)
  | .selectInto keyword items _ tail => some (keyword, items ++ tail)
  | .declare _ keyword items => some (keyword, items)
  | _ => none

/-- The words of a `token_list` as they are in the program; a cursor has
the prefix of its file. -/
def sourceWords (filenameID : Line) : List SqlItem → List Line
  | [] => []
  | .word text :: items => text :: sourceWords filenameID items
  | .host name :: items => (':' :: name) :: sourceWords filenameID items
  | .currentOf cursor :: items =>
      "WHERE CURRENT OF".toList :: cursorname filenameID cursor
        :: sourceWords filenameID items

section Parameters

variable {filenameID keyword : Line} {items : List SqlItem} {word : Line}
  {hosts : List Line} {e : Embedded}

/-- The number of a parameter is read back from its text. -/
theorem parameterNumber_parameterText (n : Nat) :
    parameterNumber (parameterText n) = some n := by
  have hne : Nat.toDigits 10 n ≠ [] := Nat.toDigits_ne_nil
  have hdigits : (Nat.toDigits 10 n).all Char.isDigit = true :=
    List.all_eq_true.mpr (Lib.Decimal.digits_toDigits n)
  rw [parameterText, parameterNumber, if_pos ⟨hne, hdigits⟩,
    Nat.ofDigitChars_ten_toDigits]

/-- The name of a cursor is no parameter. -/
theorem parameterNumber_cursorname (cursor : Line) :
    parameterNumber (cursorname filenameID cursor) = none := by
  have hmem : '_' ∈ cursorname filenameID cursor :=
    List.mem_append_right _ List.mem_cons_self
  cases hname : cursorname filenameID cursor with
  | nil => rfl
  | cons c digits =>
      rw [hname] at hmem
      unfold parameterNumber
      split
      case h_2 => rfl
      case h_1 digits' heq =>
          obtain ⟨rfl, rfl⟩ := List.cons.inj heq
          refine if_neg fun h => ?_
          rcases List.mem_cons.mp hmem with h' | hmem
          · exact absurd h' (by decide)
          · exact absurd (List.all_eq_true.mp h.2 _ hmem) (by decide)

/-- A word that is no parameter stands for itself. -/
theorem bindHost_of_none (h : parameterNumber word = none) :
    bindHost hosts word = word := by
  rw [bindHost, h]

/-- The host variables come back out of the text at their places. -/
theorem bindHost_texts (before : List Line)
    (h : ∀ text, .word text ∈ items → parameterNumber text = none) :
    (texts filenameID before.length items).map
        (bindHost (before ++ hostnames items))
      = sourceWords filenameID items := by
  induction items generalizing before with
  | nil => rfl
  | cons item items ih =>
      have hitems : ∀ text, .word text ∈ items
          → parameterNumber text = none :=
        fun text ht => h text (List.mem_cons_of_mem item ht)
      cases item with
      | word text =>
          rw [texts, List.map_cons, sourceWords, hostnames, ih before hitems,
            bindHost_of_none (h text List.mem_cons_self)]
      | currentOf cursor =>
          rw [texts, List.map_cons, List.map_cons, sourceWords, hostnames,
            ih before hitems, bindHost_of_none rfl,
            bindHost_of_none (parameterNumber_cursorname cursor)]
      | host name =>
          have hat : (before ++ name :: hostnames items)[before.length]?
              = some name := by simp
          have hword : bindHost (before ++ name :: hostnames items)
              (parameterText (before.length + 1)) = ':' :: name := by
            rw [bindHost, parameterNumber_parameterText]
            dsimp only
            rw [hat]
            rfl
          have hrest := ih (before ++ [name]) hitems
          rw [List.length_append, List.length_singleton, List.append_assoc,
            List.singleton_append] at hrest
          rw [texts, List.map_cons, sourceWords, hostnames, hword, hrest]

/-- The entry of a statement with a text has its words and its host
variables. -/
theorem exec_text (htext : e.statement.text = some (keyword, items))
    (hkept : putother keyword = true → keepsWords items = true)
    (sqlnum : Nat) :
    (e.exec filenameID sqlnum).sqlList = keyword :: texts filenameID 0 items
      ∧ (e.exec filenameID sqlnum).hosts = hostnames items := by
  obtain ⟨statement, atdb, startLine, endLine, period⟩ := e
  cases statement with
  | sql keyword' items' =>
      obtain ⟨rfl, rfl⟩ := Prod.mk.inj (Option.some.inj htext)
      have hlist : tokenList keyword' items' = items' := by
        unfold tokenList
        split
        case isTrue hput => exact scanned_of_keepsWords (hkept hput)
        case isFalse => rfl
      refine ⟨?_, map_hostListFrom ..⟩
      show keyword' :: texts filenameID 0 (tokenList keyword' items') = _
      rw [hlist]
  | selectInto keyword' items' into tail =>
      obtain ⟨rfl, rfl⟩ := Prod.mk.inj (Option.some.inj htext)
      exact ⟨rfl, map_hostListFrom ..⟩
  | declare cursor keyword' items' =>
      obtain ⟨rfl, rfl⟩ := Prod.mk.inj (Option.some.inj htext)
      exact ⟨rfl, map_hostListFrom ..⟩
  | declarePrepared | openCursor | closeCursor | fetch | commit | rollback
  | prepare | execute | connect => cases htext

/-- Put the host variables of the entry back at the parameters with their
numbers, and its text is the one in the program. -/
theorem map_bindHost_sqlList
    (htext : e.statement.text = some (keyword, items))
    (hkept : putother keyword = true → keepsWords items = true)
    (hkeyword : parameterNumber keyword = none)
    (h : ∀ text, .word text ∈ items → parameterNumber text = none)
    (sqlnum : Nat) :
    (e.exec filenameID sqlnum).sqlList.map
        (bindHost (e.exec filenameID sqlnum).hosts)
      = keyword :: sourceWords filenameID items := by
  obtain ⟨hlist, hhosts⟩ := @exec_text filenameID _ _ _ htext hkept sqlnum
  rw [hlist, hhosts, List.map_cons, bindHost_of_none hkeyword]
  exact congrArg (keyword :: ·) (bindHost_texts [] h)

/-- The INSERT of the sample as the program has it. -/
theorem map_bindHost_sqlList_sample :
    (insertStatement.exec "P".toList 0).sqlList.map
        (bindHost (insertStatement.exec "P".toList 0).hosts)
      = ["INSERT".toList, "INTO".toList, "T".toList, "VALUES".toList,
        "(".toList, ":NAME".toList, ")".toList] := by
  refine @map_bindHost_sqlList _ _ insertItems _ rfl (by decide) rfl
    (fun text ht => ?_) 0
  simp only [insertItems, List.mem_cons, SqlItem.word.injEq, reduceCtorEq,
    List.not_mem_nil, or_false, false_or] at ht
  rcases ht with rfl | rfl | rfl | rfl | rfl <;> rfl

end Parameters

-- ===================================================== the runtime's lists

/-- A statement with parameters is one request, and COMMIT and ROLLBACK
begin the next transaction. -/
def send {σ : Type} (pq : Libpq σ) (atdb query : Text) (params : List Text) :
    State σ → Option (State σ) :=
  withConnection atdb fun id st =>
    some (afterExec pq id query
      (ocdbExecParams pq id query params (sqlcaInitialize st)))

section Lists

variable {σ : Type} {pq : Libpq σ} {table : HostTable}

/-- A function that leaves the runtime's lists alone and does not look at
them. -/
def Ignores (f : State σ → State σ) : Prop :=
  ∀ st, ocesqlEndSql (f st) = f (ocesqlEndSql st)

/-- Two functions that ignore the variables, one after the other. -/
theorem Ignores.comp {f g : State σ → State σ} (hf : Ignores f)
    (hg : Ignores g) : Ignores fun st => f (g st) :=
  fun st => (hf (g st)).trans (congrArg f (hg st))

theorem ignores_ocdbSend (id : Nat) (req : Request) :
    Ignores (ocdbSend pq id req) := by
  intro st
  have hlook : lookUpConnLists id (ocesqlEndSql st) = lookUpConnLists id st :=
    rfl
  unfold ocdbSend
  rw [hlook]
  cases lookUpConnLists id st with
  | none => rfl
  | some c => rfl

/-- Clearing the variables does not disturb the status. -/
theorem setResultStatus_ocesqlEndSql (id : Nat) (st : State σ) :
    setResultStatus id (ocesqlEndSql st)
      = ((setResultStatus id st).1,
          ocesqlEndSql (setResultStatus id st).2) := by
  have hlook : lookUpConnLists id (ocesqlEndSql st) = lookUpConnLists id st :=
    rfl
  unfold setResultStatus
  rw [hlook]
  cases lookUpConnLists id st with
  | none => rfl
  | some c =>
      cases c with
      | mk id cid res =>
          cases res with
          | none => rfl
          | dummyOpen => rfl
          | result r => rfl

end Lists

-- ==================================================== words in lower case

section Words

variable {root : CbField} {filenameID keyword : Line} {sqlnum : Nat}
  {e : Embedded} {items : List SqlItem}

/-- A call is left behind by every statement `ppbuff` has a branch for. -/
theorem callAt_calls_ne_nil (list : CbExec) (callee : Bool → Callee)
    (args : List Arg) : (callAt root list callee args).calls ≠ [] := by
  unfold callAt
  split
  · split <;> exact List.cons_ne_nil _ _
  · exact List.cons_ne_nil _ _

/-- OCESQLStartSQL is a call already. -/
theorem startSQL_append_ne_nil (rest : Emit) :
    (startSQL ++ rest).calls ≠ [] := List.cons_ne_nil _ _

/-- Every statement that is sent as it is makes calls. -/
theorem ppoutputother_ne_nil (list : CbExec) :
    (ppoutputother root list).calls ≠ [] := by
  unfold ppoutputother
  split
  · exact callAt_calls_ne_nil _ _ _
  · dsimp only
    rw [Emit.append_assoc, Emit.append_assoc]
    exact startSQL_append_ne_nil _

/-- So does a SELECT. -/
theorem ppbuffSelect_ne_nil (list : CbExec) :
    (ppbuffSelect root list).calls ≠ [] := by
  unfold ppbuffSelect
  dsimp only
  split
  · rw [Emit.append_assoc, Emit.append_assoc]
    exact startSQL_append_ne_nil _
  · exact callAt_calls_ne_nil _ _ _

/-- No branch takes a word of `commands` that is written otherwise. -/
theorem ppbuff_lost {l : CbExec} (hword : putother l.commandName = false)
    (hmem : l.commandName ∉ commands) (hother : l.commandPutother = false)
    (hprepare : l.prepareName = []) : ppbuff root l = .nil := by
  have hne : ∀ word, putother word = true → l.commandName ≠ word := by
    intro word hput heq
    rw [heq, hput] at hword
    cases hword
  have hcommand : ∀ word ∈ commands, l.commandName ≠ word := by
    intro word hin heq
    exact hmem (heq ▸ hin)
  have hnone : ppoutcontext root l = none := by
    unfold ppoutcontext
    rw [if_neg (hne _ (by decide)), if_neg (hne _ (by decide)),
      if_neg (hne _ (by decide)), if_neg (hne _ (by decide)),
      if_neg (hne _ (by decide)), if_neg (hne _ (by decide)),
      if_neg (hne _ (by decide)), if_neg (hne _ (by decide)),
      if_neg (hcommand _ (by decide)), if_neg (hcommand _ (by decide)),
      if_neg (hcommand _ (by decide)), if_neg (hne _ (by decide)),
      if_neg (hcommand _ (by decide)), hother, if_neg Bool.false_ne_true]
  have hwords : ¬(l.commandName = "INCFILE".toList
      ∨ l.commandName = "HOST_BEGIN".toList
      ∨ l.commandName = "HOST_END".toList
      ∨ l.commandName = "WORKING_BEGIN".toList) := by
    rintro (h | h | h | h)
    · exact hne _ (by decide) h
    · exact hne _ (by decide) h
    · exact hne _ (by decide) h
    · exact hne _ (by decide) h
  unfold ppbuff
  rw [hnone]
  dsimp only
  rw [if_neg hwords, if_neg (hcommand _ (by decide)), hprepare,
    if_neg (not_not.mpr rfl), if_neg (hne _ (by decide))]
  rfl

/-- And a SELECT INTO. -/
theorem ppbuffSelectInto_ne_nil (list : CbExec) :
    (ppbuffSelectInto root list).calls ≠ [] := startSQL_append_ne_nil _

/-- Every word of `commands` in upper case leaves a call behind. -/
theorem ppbuff_ne_nil {l : CbExec} (hmem : l.commandName ∈ commands)
    (hother : l.commandPutother = false) : (ppbuff root l).calls ≠ [] := by
  by_cases hselect : l.commandName = "SELECT".toList
  · by_cases hres : l.resHostList = []
    · rw [ppbuff_select hselect hother hres]
      exact ppbuffSelect_ne_nil l
    · rw [ppbuff_selectInto hselect hother hres]
      exact ppbuffSelectInto_ne_nil l
  · by_cases hdisconnect : l.commandName = "DISCONNECT".toList
    · rw [ppbuff_disconnect hdisconnect]
      exact callAt_calls_ne_nil l .disconnect []
    · have hchanges : l.commandName ∈ ["INSERT".toList, "UPDATE".toList,
          "DELETE".toList] := by
        unfold commands at hmem
        rcases List.mem_cons.mp hmem with h | hmem
        · exact absurd h hselect
        · -- DISCONNECT is the last of the others
          rcases List.mem_append.mp (show l.commandName
              ∈ ["INSERT".toList, "UPDATE".toList, "DELETE".toList]
                ++ ["DISCONNECT".toList] from hmem) with h | h
          · exact h
          · exact absurd (List.mem_singleton.mp h) hdisconnect
      have hown : l.commandName ∉ ownWords := by
        simp only [List.mem_cons, List.not_mem_nil, or_false] at hchanges
        rcases hchanges with h | h | h <;> rw [h] <;> decide
      rw [ppbuff_other hown hdisconnect (.inr hchanges)]
      exact ppoutputother_ne_nil l

/-- The first word of the text is the command of the entry. -/
theorem exec_command (htext : e.statement.text = some (keyword, items))
    (hword : putother keyword = false) :
    (e.exec filenameID sqlnum).commandName = keyword
      ∧ (e.exec filenameID sqlnum).commandPutother = false
      ∧ (e.exec filenameID sqlnum).prepareName = [] := by
  obtain ⟨statement, atdb, startLine, endLine, period⟩ := e
  cases statement with
  | sql keyword' items' =>
      obtain ⟨rfl, rfl⟩ := Prod.mk.inj (Option.some.inj htext)
      refine ⟨?_, hword, rfl⟩
      show commandname keyword' items' = keyword'
      rw [commandname, hword, if_neg Bool.false_ne_true]
  | selectInto keyword' items' into tail =>
      obtain ⟨rfl, rfl⟩ := Prod.mk.inj (Option.some.inj htext)
      exact ⟨rfl, rfl, rfl⟩
  | declare cursor keyword' items' =>
      obtain ⟨rfl, rfl⟩ := Prod.mk.inj (Option.some.inj htext)
      exact ⟨rfl, rfl, rfl⟩
  | declarePrepared | openCursor | closeCursor | fetch | commit | rollback
  | prepare | execute | connect => cases htext

/-- A statement that starts with one of these words, however it is written,
and the SELECT of a cursor leave nothing behind exactly when the word is not
in upper case. -/
theorem ppbuff_eq_nil_iff
    (htext : e.statement.text = some (keyword, items))
    (hword : putother keyword = false) :
    ppbuff root (e.exec filenameID sqlnum) = .nil ↔ keyword ∉ commands := by
  obtain ⟨hcommand, hother, hprepare⟩ :=
    @exec_command filenameID keyword sqlnum e items htext hword
  constructor
  · intro hnil hmem
    apply ppbuff_ne_nil (hcommand ▸ hmem) hother
    rw [hnil]
    rfl
  · intro hmem
    exact ppbuff_lost (hcommand ▸ hword) (hcommand ▸ hmem) hother hprepare

/-- `insert INTO T VALUES ( :NAME )`. -/
theorem ppbuff_eq_nil_iff_sample :
    ppbuff insertFields (Embedded.exec "P".toList 0
      ⟨.sql "insert".toList insertItems, none, 3, 4, true⟩) = .nil :=
  (ppbuff_eq_nil_iff rfl (by decide)).mpr (by decide)

end Words

end CobolExercises.Precompiler
