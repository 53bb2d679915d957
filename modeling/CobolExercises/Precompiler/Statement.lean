/-
Embedded statements, and the entries the grammar makes of them
(`parser.y`, the actions; `cb_text_list_add`, `cb_host_list_add`,
`cb_set_cursorname`, `put_exec_list`).

# Words and host variables

The text of a statement is a list of words. A host variable in it becomes
the parameter with its number, and the list of host variables of the
statement grows by one, also where the same variable has been there before
(`texts`, `hostnames`).

# Commands

The scanner knows its words in any case. The word itself is what is kept
as the name of the command for SELECT, INSERT, UPDATE, DELETE and
DISCONNECT; any other first word makes a statement that is sent as it is
(`putother`).

# Statements that are sent as they are

Only the words of `commands` tell the scanner that what follows is the text
of a statement (`flag_insqlstring`). In any other statement it is told by
the first SELECT, which becomes the name of the command and takes a number
of its own; a FOR in front of that has no text, and the parser takes the
text of what was scanned before it (`scanned`).
-/
import CobolExercises.Precompiler.Ppbuff
import CobolExercises.Runtime.Prepare

namespace CobolExercises.Precompiler

open CobolExercises.Runtime

-- ============================================================== statements

/-- An element of `token_list`. -/
inductive SqlItem where
  | word (text : Line)
  | host (name : Line)
  | currentOf (cursor : Line)

/-- A statement between EXEC SQL and END-EXEC; `sql` is INSERT, UPDATE,
DELETE, DISCONNECT and what is sent as it is. -/
inductive Statement where
  | sql (keyword : Line) (items : List SqlItem)
  | selectInto (keyword : Line) (items : List SqlItem) (into : List Line)
      (tail : List SqlItem)
  | declare (cursor keyword : Line) (items : List SqlItem)
  | declarePrepared (cursor sname : Line)
  | openCursor (cursor : Line) (hosts : List Line)
  | closeCursor (cursor : Line)
  | fetch (cursor : Line) (into : List Line)
  | commit (release : Bool)
  | rollback (release : Bool)
  | prepare (sname host : Line)
  | execute (sname : Line) (hosts : List Line)
  | connect (hosts : List Line)

/-- A statement in its place, with the name behind AT. -/
structure Embedded where
  statement : Statement
  atdb : Option Line
  startLine : Nat
  endLine : Nat
  period : Bool

-- =================================================================== words

/-- `cb_set_cursorname`. -/
def cursorname (filenameID text : Line) : Line := filenameID ++ '_' :: text

/-- The words of a `token_list`, behind `n` host variables. -/
def texts (filenameID : Line) : Nat → List SqlItem → List Line
  | _, [] => []
  | n, .word text :: items => text :: texts filenameID n items
  | n, .host _ :: items =>
      parameterText (n + 1) :: texts filenameID (n + 1) items
  | n, .currentOf cursor :: items =>
      "WHERE CURRENT OF".toList :: cursorname filenameID cursor
        :: texts filenameID n items

/-- The host variables of a `token_list`. -/
def hostnames : List SqlItem → List Line
  | [] => []
  | .host name :: items => name :: hostnames items
  | .word _ :: items => hostnames items
  | .currentOf _ :: items => hostnames items

/-- The cursor a `token_list` leaves in `cursorname`. -/
def lastCursor (filenameID : Line) (before : Line) : List SqlItem → Line
  | [] => before
  | .currentOf cursor :: items =>
      lastCursor filenameID (cursorname filenameID cursor) items
  | .word _ :: items => lastCursor filenameID before items
  | .host _ :: items => lastCursor filenameID before items

/-- `cb_search_list`, one after the other. -/
def hostListFrom (lineno : Nat) : Nat → List Line → List HostReference
  | _, [] => []
  | n, name :: names =>
      ⟨name, n + 1, lineno⟩ :: hostListFrom lineno (n + 1) names

-- ================================================================ commands

/-- The words with a rule of their own whose text is the name of the
command. -/
def commands : List Line :=
  ["SELECT".toList, "INSERT".toList, "UPDATE".toList, "DELETE".toList,
    "DISCONNECT".toList]

/-- `command_putother`. -/
def putother (keyword : Line) : Bool := !commands.any (comStricmp keyword)

/-- `"SQ%04d"`. -/
def sqlname (sqlnum : Nat) : Line :=
  let digits := Nat.toDigits 10 sqlnum
  "SQ".toList ++ List.replicate (4 - digits.length) '0' ++ digits

/-- The words of a statement that is sent as it is, as the parser gets
them; `last` is the text of what was scanned before. -/
def scanned (last : Line) : List SqlItem → List SqlItem
  | [] => []
  | .word text :: items =>
      if comStricmp text "SELECT".toList then .word text :: items
      -- the scanner returns FOR and leaves `yylval` as it was
      else if comStricmp text "FOR".toList then
        .word last :: scanned last items
      else .word text :: scanned text items
  | .host name :: items => .host name :: scanned name items
  | .currentOf cursor :: items => .currentOf cursor :: scanned cursor items

/-- The first SELECT among the words. -/
def firstSelect : List SqlItem → Option Line
  | [] => none
  | .word text :: items =>
      if comStricmp text "SELECT".toList then some text
      else firstSelect items
  | .host _ :: items | .currentOf _ :: items => firstSelect items

/-- The `token_list` of a statement with this first word. -/
def tokenList (keyword : Line) (items : List SqlItem) : List SqlItem :=
  if putother keyword then scanned keyword items else items

/-- `commandname` behind a statement with this first word. -/
def commandname (keyword : Line) (items : List SqlItem) : Line :=
  if putother keyword then (firstSelect items).getD keyword else keyword

/-- How often a statement makes the scanner count `sqlnum`. -/
def Statement.numbers : Statement → Nat
  | .sql keyword items =>
      if putother keyword && (firstSelect items).isSome then 2 else 1
  | .selectInto .. | .declare .. => 1
  | _ => 0

-- ================================================================= entries

/-- `put_exec_list` for a statement without a text. -/
def Embedded.entry (e : Embedded) (commandName : Line) (hosts : List Line) :
    CbExec where
  sqlName := []
  sqlList := []
  startLine := e.startLine
  endLine := e.endLine
  period := e.period
  hostList := hostListFrom e.startLine 0 hosts
  hostreferenceCount := hosts.length
  resHostList := []
  connUseOtherDb := e.atdb.isSome
  dbName := e.atdb.getD []
  prepareName := []
  cursorName := []
  commandName := commandName
  commandPutother := false

/-- The entry of a statement, the next one after `sqlnum` texts. -/
def Embedded.exec (filenameID : Line) (sqlnum : Nat) (e : Embedded) :
    CbExec :=
  match e.statement with
  -- a SELECT among the words makes another number, and its own command name
  | .sql keyword items =>
      { e.entry (commandname keyword items) (hostnames items) with
        sqlName := sqlname (sqlnum + e.statement.numbers)
        sqlList := keyword :: texts filenameID 0 (tokenList keyword items)
        cursorName := lastCursor filenameID [] items
        commandPutother := putother keyword }
  | .selectInto keyword items into tail =>
      { e.entry keyword (hostnames (items ++ tail)) with
        sqlName := sqlname (sqlnum + 1)
        sqlList := keyword :: texts filenameID 0 (items ++ tail)
        cursorName := lastCursor filenameID [] (items ++ tail)
        resHostList := into.map fun name => (name, e.startLine) }
  | .declare cursor keyword items =>
      { e.entry keyword (hostnames items) with
        sqlName := sqlname (sqlnum + 1)
        sqlList := keyword :: texts filenameID 0 items
        cursorName :=
          lastCursor filenameID (cursorname filenameID cursor) items }
  -- it has no text, and so no command name either
  | .declarePrepared cursor sname =>
      { e.entry [] [] with
        cursorName := cursorname filenameID cursor
        prepareName := sname }
  | .openCursor cursor hosts =>
      { e.entry "OPEN".toList hosts with
        cursorName := cursorname filenameID cursor }
  | .closeCursor cursor =>
      { e.entry "CLOSE".toList [] with
        cursorName := cursorname filenameID cursor }
  | .fetch cursor into =>
      { e.entry "FETCH".toList [] with
        cursorName := cursorname filenameID cursor
        resHostList := into.map fun name => (name, e.startLine) }
  | .commit release =>
      e.entry (if release then "COMMIT_RELEASE".toList
        else "COMMIT".toList) []
  | .rollback release =>
      e.entry (if release then "ROLLBACK_RELEASE".toList
        else "ROLLBACK".toList) []
  | .prepare sname host =>
      { e.entry "PREPARE".toList [host] with prepareName := sname }
  | .execute sname hosts =>
      { e.entry "EXECUTE".toList hosts with prepareName := sname }
  | .connect hosts => e.entry "CONNECT".toList hosts

end CobolExercises.Precompiler
