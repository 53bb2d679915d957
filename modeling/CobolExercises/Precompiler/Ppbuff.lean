/-
The calls a statement is turned into (`ppbuff`, `ppoutcontext` and the
functions they call).

# Shape

Most statements are one call of the runtime. Host variables are handed over
in calls of their own in front of it, one each, between
`OCESQLStartSQL` and `OCESQLEndSQL`. An error goes into the error file and
leaves out what it is about: a host variable of a statement, or the rest of
the calls.

# Names

The name of the command is compared as it is. For SELECT, INSERT, UPDATE,
DELETE and DISCONNECT it is the word of the program, and a word in lower
case is no command.

# Left out

The items of a VARYING variable, the lines in front of PROCEDURE DIVISION
and the `copy` of SQLCA are no calls. A PREPARE from a group without
children, where the source reads through a null pointer, is an invalid
parameter here.
-/
import CobolExercises.Precompiler.Host
import CobolExercises.Precompiler.PpOutput

namespace CobolExercises.Precompiler

-- ======================================================== what they share

/-- `CALL ... USING SQLCA`, the name of the connection if there is one, and
the other arguments. -/
def callAt (root : CbField) (list : CbExec) (callee : Bool → Callee)
    (args : List Arg) : Emit :=
  if list.connUseOtherDb then
    match gethostvarianttype root list.dbName with
    | .error e =>
        .call (callee true) [.sqlca] ++ .fail list.dbName e
    | .ok v =>
        .call (callee true)
          (.sqlca :: .reference list.dbName :: .value v.digits :: args)
  else .call (callee false) (.sqlca :: args)

def startSQL : Emit := .call .startSQL []

def endSQL : Emit := .call .endSQL []

/-- The names of the host variables. -/
def CbExec.hosts (list : CbExec) : List Line :=
  list.hostList.map HostReference.hostreference

/-- `OCESQLSetHostTable`. -/
def setHostTable (iteration : Int) (length : Nat) (occursIsParent : Bool) :
    Emit :=
  .call .setHostTable
    [.value iteration, .value length, .value occursIsParent.toNat]

-- ============================================================== statements

/-- `ppoutputconnect`, behind SQLCA and the connection's name. -/
def connectArgs (root : CbField) : List Line → List Arg × Emit
  | [] => ([], .nil)
  | host :: hosts =>
      match gethostvarianttype root host with
      | .error e => ([], .fail host e)
      | .ok v =>
          let rest := connectArgs root hosts
          (.reference host :: .value v.digits :: rest.1, rest.2)

/-- `ppoutputconnect`. -/
def ppoutputconnect (root : CbField) (list : CbExec) : Emit :=
  let callee :=
    match list.hostList with
    | [] => Callee.connectShort
    | [_] => Callee.connectInformal
    | _ => Callee.connect
  let args := connectArgs root list.hosts
  callAt root list callee args.1 ++ args.2

/-- `ppoutputopen`. -/
def ppoutputopen (root : CbField) (list : CbExec) : Emit :=
  if list.hostreferenceCount ≠ 0 then
    startSQL ++ (ppoutputparams root 0 list.hosts).2
      ++ .call .cursorOpenParams
        [.sqlca, .text list.cursorName, .value list.hostreferenceCount]
      ++ endSQL
  else .call .cursorOpen [.sqlca, .text list.cursorName]

/-- `ppoutputexecprepare`. -/
def ppoutputexecprepare (root : CbField) (list : CbExec) : Emit :=
  let first :=
    match list.hosts with
    | [] => Emit.nil
    | host :: _ =>
        match gethostvarianttype root host with
        | .error e => .fail host e
        | .ok _ => .nil
  let params := ppoutputparams root 0 list.hosts
  startSQL ++ first ++ params.2
    ++ callAt root list .execPrepare
      [.text list.prepareName, .value params.1]
    ++ endSQL

/-- `ppoutputfetch`. -/
def ppoutputfetch (root : CbField) (list : CbExec) : Emit :=
  let hosts := list.resHostList.map Prod.fst
  let host := hosts.headD []
  startSQL
    ++ match gethostvarianttype root host with
      | .error e => .fail host e
      | .ok v =>
          if v.type = groupType then
            match getfieldbyname root host with
            | none => .fail host .notdefWorking
            | some parent =>
                if parent.data.occurs ≠ 0 then
                  ppoutputresgroup root parent.data.occurs parent.children
                    ++ setHostTable parent.data.occurs
                      (getHostGroupLength parent.children 0) true
                    ++ .call .cursorFetchOccurs [.sqlca, .text list.cursorName]
                    ++ endSQL
                else
                  let info := getHostGroupTableInfo parent.children (-1, 0)
                  ppoutputresgroup root info.1 parent.children
                    ++ (if info.1 ≠ 0 then
                        setHostTable info.1 info.2 false
                          ++ .call .cursorFetchOccurs
                            [.sqlca, .text list.cursorName]
                      else
                        .call .cursorFetchOne [.sqlca, .text list.cursorName])
                    ++ endSQL
          else
            ppoutputresparams root 0 hosts
              ++ .call .cursorFetchOne [.sqlca, .text list.cursorName]
              ++ endSQL

/-- `ppoutputcommit` and `ppoutputrollback`. -/
def ppoutputend (root : CbField) (list : CbExec) (text : Line) : Emit :=
  startSQL ++ callAt root list .exec [.text text] ++ endSQL

def ppoutputcommit (root : CbField) (list : CbExec) : Emit :=
  ppoutputend root list "COMMIT".toList

def ppoutputrollback (root : CbField) (list : CbExec) : Emit :=
  ppoutputend root list "ROLLBACK".toList

/-- `ppoutputprepare`. -/
def ppoutputprepare (root : CbField) (list : CbExec) : Emit :=
  let host := list.hosts.headD []
  let started := Emit.call .prepare [.sqlca, .text list.prepareName]
  match gethostvarianttype root host with
  | .error e => started ++ .fail host e
  | .ok v =>
      if v.type ≠ groupType then started ++ .fail host .prepareIsntGroup
      else
        match getfieldbyname root host with
        | none => started ++ .fail host .notdefWorking
        | some parent =>
            match parent.children with
            | .node child _ (.node sister _ _) =>
                if child.sname = parent.data.sname ++ "-LEN".toList
                    ∧ sister.sname = parent.data.sname ++ "-ARR".toList then
                  .call .prepare
                    [.sqlca, .text list.prepareName, .reference sister.sname,
                      .valueOf child.sname]
                else started ++ .fail host .prepareInvalidParam
            | _ => started ++ .fail host .prepareInvalidParam

/-- `ppoutputdisconnect`. -/
def ppoutputdisconnect (root : CbField) (list : CbExec) : Emit :=
  callAt root list .disconnect []

/-- `strcasecmp`. -/
def comStricmp (a b : Line) : Bool :=
  a.map Char.toLower = b.map Char.toLower

/-- The host table of an INSERT, DELETE or UPDATE: `iteration`, `length` and
`occurs_is_parent`, by the parent of the first host variable. -/
def occursCheck (root : CbField) (list : CbExec) : Int × Nat × Bool :=
  if comStricmp list.commandName "INSERT".toList
      || comStricmp list.commandName "DELETE".toList
      || comStricmp list.commandName "UPDATE".toList then
    match (getfieldbyname root (list.hosts.headD [])).bind Found.parent with
    | none => (0, 0, false)
    | some (parent, child) =>
        if parent.occurs ≠ 0 then
          (parent.occurs, getHostGroupLength child 0, true)
        else
          let info := getHostGroupTableInfo child (-1, 0)
          (info.1, info.2, false)
  else (0, 0, false)

/-- `ppoutputother`. -/
def ppoutputother (root : CbField) (list : CbExec) : Emit :=
  if list.hostreferenceCount = 0 then
    callAt root list .exec [.reference list.sqlName]
  else
    let table := occursCheck root list
    let params := ppoutputparams root table.1 list.hosts
    startSQL ++ params.2
      ++ (if 0 < table.1 then
          setHostTable table.1 table.2.1 table.2.2
            ++ callAt root list .execParamsOccurs
              [.reference list.sqlName, .value params.1]
        else
          callAt root list .execParams
            [.reference list.sqlName, .value params.1])
      ++ endSQL

/-- `ppoutcontext`; `none` is its 0. -/
def ppoutcontext (root : CbField) (list : CbExec) : Option Emit :=
  if list.commandName = "CONNECT".toList then
    some (ppoutputconnect root list)
  else if list.commandName = "OPEN".toList then
    some (ppoutputopen root list)
  else if list.commandName = "EXECUTE".toList then
    some (ppoutputexecprepare root list)
  else if list.commandName = "FETCH".toList then
    some (ppoutputfetch root list)
  else if list.commandName = "COMMIT".toList then
    some (ppoutputcommit root list)
  else if list.commandName = "COMMIT_RELEASE".toList then
    some ((ppoutputcommit root list).andThen (ppoutputdisconnect root list))
  else if list.commandName = "ROLLBACK".toList then
    some (ppoutputrollback root list)
  else if list.commandName = "ROLLBACK_RELEASE".toList then
    some ((ppoutputrollback root list).andThen (ppoutputdisconnect root list))
  else if list.commandName = "INSERT".toList then
    some (ppoutputother root list)
  else if list.commandName = "UPDATE".toList then
    some (ppoutputother root list)
  else if list.commandName = "DELETE".toList then
    some (ppoutputother root list)
  else if list.commandName = "PREPARE".toList then
    some (ppoutputprepare root list)
  else if list.commandName = "DISCONNECT".toList then
    some (ppoutputdisconnect root list)
  else if list.commandPutother then some (ppoutputother root list)
  else none

-- ================================================================= SELECT

/-- The part of `ppbuff` for a SELECT without INTO: of a cursor if there is
one. -/
def ppbuffSelect (root : CbField) (list : CbExec) : Emit :=
  let cursor := if list.cursorName = [] then [] else [Arg.text list.cursorName]
  if list.hostreferenceCount ≠ 0 then
    let params := ppoutputparams root 0 list.hosts
    startSQL ++ params.2
      ++ callAt root list
        (if list.cursorName = [] then .execParams else .cursorDeclareParams)
        (cursor ++ [.reference list.sqlName, .value params.1])
      ++ endSQL
  else
    callAt root list (if list.cursorName = [] then .exec else .cursorDeclare)
      (cursor ++ [.reference list.sqlName])

/-- The result variables of a SELECT INTO from a group: `child` and its
sisters. -/
def selectResgroup (root : CbField) (iteration : Int) : CbField → Nat × Emit
  | .null => (0, .nil)
  | .node child _ sister =>
      match gethostvarianttype root child.sname with
      | .error e => (0, .fail child.sname e)
      | .ok v =>
          let rest := selectResgroup root iteration sister
          (rest.1 + 1, ppoutputresparam child.sname v iteration ++ rest.2)

/-- The end of a SELECT INTO: the host variables, and the call. -/
def ppbuffSelectCall (root : CbField) (list : CbExec) (iteration : Int)
    (length : Nat) (occursIsParent : Bool) (reshostreferenceCount : Nat) :
    Emit :=
  let params := ppoutputparams root iteration list.hosts
  let args := [Arg.reference list.sqlName, .value params.1,
    .value reshostreferenceCount]
  params.2
    ++ (if iteration ≠ 0 then
        setHostTable iteration length occursIsParent
          ++ callAt root list .execSelectIntoOccurs args
      else callAt root list .execSelectIntoOne args)
    ++ endSQL

/-- The part of `ppbuff` for a SELECT INTO. -/
def ppbuffSelectInto (root : CbField) (list : CbExec) : Emit :=
  let hosts := list.resHostList.map Prod.fst
  let host := hosts.headD []
  startSQL
    ++ match gethostvarianttype root host with
      | .error e => .fail host e
      | .ok v =>
          if v.type = groupType then
            match getfieldbyname root host with
            | none => .fail host .notdefWorking
            | some parent =>
                if parent.data.occurs ≠ 0 then
                  let res := selectResgroup root parent.data.occurs
                    parent.children
                  res.2
                    ++ ppbuffSelectCall root list parent.data.occurs
                      (getHostGroupLength parent.children 0) true res.1
                else
                  let info := getHostGroupTableInfo parent.children (-1, 0)
                  let res := selectResgroup root info.1 parent.children
                  res.2
                    ++ ppbuffSelectCall root list info.1 info.2 false res.1
          else
            ppoutputresparams root 0 hosts
              ++ ppbuffSelectCall root list 0 0 false hosts.length

-- ================================================================= ppbuff

/-- `ppbuff`, the calls. -/
def ppbuff (root : CbField) (list : CbExec) : Emit :=
  match ppoutcontext root list with
  | some emit => emit
  | none =>
      if list.commandName = "INCFILE".toList
          ∨ list.commandName = "HOST_BEGIN".toList
          ∨ list.commandName = "HOST_END".toList
          ∨ list.commandName = "WORKING_BEGIN".toList then .nil
      else if list.commandName = "SELECT".toList then
        if list.resHostList = [] then ppbuffSelect root list
        else ppbuffSelectInto root list
      else
        (if list.prepareName ≠ [] then
          callAt root list .preparedCursorDeclare
            [.text list.cursorName, .text list.prepareName]
        else .nil)
        ++ if list.commandName = "CLOSE".toList then
            .call .cursorClose [.sqlca, .text list.cursorName]
          else .nil

end CobolExercises.Precompiler
