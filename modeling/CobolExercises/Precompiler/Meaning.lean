/-
What the CALLs of a statement come to when the program runs.

# Linkage

Where an item is, and which text is in a record of WORKING-STORAGE, is up
to the COBOL compiler (`Linkage`). With that every CALL is a call of the
runtime; the name of a connection and the values of the host variables are
what is in storage when it runs.

# Meaning

A statement is one call of the runtime. If it names host variables, their
values are taken from storage first, in order, and they are forgotten
behind it (`Meaning.perform`). No call for a host variable, no table and no
count is in the meaning: that `ppbuff` puts them right is what is to be
shown.

`meaning` is made of what the precompiler knows of the fields, its types
and its host tables; what a statement means to the program, by the COBOL
descriptions of its items, is `Linkage.intended`. A statement with an error
(an item that is not there, a group where one value is needed, a word
`ppbuff` has no branch for) has no meaning.
-/
import CobolExercises.Precompiler.Statement
import CobolExercises.Runtime.Connect

namespace CobolExercises.Precompiler

open CobolExercises.Runtime Database

-- =============================================================== linkage

/-- `HVARTYPE_...` as the runtime takes it. -/
def hostType : Nat → HostType
  | 1 => .unsignedNumber
  | 3 => .signedNumberTc
  | 4 => .signedNumberLs
  | 8 => .unsignedNumberPd
  | 9 => .signedNumberPd
  | 16 => .alphanumeric
  | 24 => .japanese
  | 30 => .alphanumericVarying
  | 31 => .japaneseVarying
  | _ => .other

/-- The addresses of the items that take no subscript, those of the first
elements of the items that take one, the texts in the records of the
statements, and the environment. -/
structure Linkage where
  address : Line → Option Nat
  element : Line → Option Nat
  text : Line → Option Text
  getenv : Environment

/-- The functions with a connection, and whether its name is given. -/
def Callee.named : Callee → Option Bool
  | .connect id | .connectInformal id | .connectShort id
  | .disconnect id | .exec id | .execParams id | .execParamsOccurs id
  | .execPrepare id | .cursorDeclare id | .cursorDeclareParams id
  | .preparedCursorDeclare id | .execSelectIntoOne id
  | .execSelectIntoOccurs id => some id
  | _ => none

/-- `OCESQLConnect...`, with the connection's name or without. -/
def connectCall (id : Bool) (atdb connstr : Text) : Call :=
  if id then .idConnect atdb connstr else .connect connstr

namespace Linkage

variable (env : Linkage) (mem : Storage)

/-- The string in the first `n` bytes of an item. -/
def bytes (name : Line) (n : Nat) : Option Text :=
  (env.address name).map fun addr => cstring (mem.read addr n)

/-- The name of the connection, and the arguments behind it. -/
def connection : Bool → List Arg → Option (Text × List Arg)
  | false, .sqlca :: args => some (defaultDbname, args)
  | true, .sqlca :: .reference dbName :: .value n :: args =>
      (env.bytes mem dbName n.toNat).map (·, args)
  | _, _ => none

/-- The item passed. -/
def item : Arg → Option Nat
  | .reference name => env.address name
  | .element name => env.element name
  | _ => none

/-- Where an item is, or its first element. -/
def place (indexed : Bool) (name : Line) : Option Nat :=
  if indexed then env.element name else env.address name

/-- The arguments of `OCESQLSetSQLParams` and `OCESQLSetResultParams`. -/
def sqlVar : List Arg → Option SqlVar
  | [.value type, .value digits, .value scale, arg] =>
      (env.item arg).map
        (SqlVar.mk (hostType type.toNat) digits.toNat scale)
  | _ => none

/-- The text of a statement. -/
def query : Arg → Option Text
  | .reference sqlName => env.text sqlName
  | .text text => some text
  | _ => none

/-- A call over a connection, with the arguments behind its name. -/
def callOver (atdb : Text) : Callee → List Arg → Option Call
  | .connectShort id, [] =>
      some (connectCall id atdb (ocesqlConnectText env.getenv [] [] []))
  | .connectInformal id, [.reference conninfo, .value n] =>
      (env.bytes mem conninfo n.toNat).map fun conninfo =>
        connectCall id atdb (ocesqlConnectInformalText env.getenv conninfo)
  | .connect id, [.reference user, .value n, .reference passwd, .value k,
      .reference name, .value j] =>
      (env.bytes mem user n.toNat).bind fun user =>
        (env.bytes mem passwd k.toNat).bind fun passwd =>
          (env.bytes mem name j.toNat).map fun name =>
            connectCall id atdb
              (ocesqlConnectText env.getenv user passwd name)
  | .disconnect _, [] => some (.disconnect atdb)
  | .exec _, [sql] => (env.query sql).map (.exec atdb)
  | .execParams _, [sql, .value n] =>
      (env.query sql).map fun query => .execParams atdb query n.toNat
  | .execParamsOccurs _, [sql, .value n] =>
      (env.query sql).map fun query => .execParamsOccurs atdb query n.toNat
  | .execPrepare _, [.text sname, .value n] =>
      some (.execPrepare atdb sname n.toNat)
  | .cursorDeclare _, [.text cname, sql] =>
      (env.query sql).map (.cursorDeclare atdb cname)
  | .cursorDeclareParams _, [.text cname, sql, .value n] =>
      (env.query sql).map fun query =>
        .cursorDeclareParams atdb cname query n.toNat
  | .preparedCursorDeclare _, [.text cname, .text sname] =>
      some (.preparedCursorDeclare atdb cname sname)
  | .execSelectIntoOne _, [sql, .value n, .value m] =>
      (env.query sql).map fun query =>
        .selectIntoOne atdb query n.toNat m.toNat
  | .execSelectIntoOccurs _, [sql, .value n, .value m] =>
      (env.query sql).map fun query =>
        .selectIntoOccurs atdb query n.toNat m.toNat
  | _, _ => none

/-- The text of a PREPARE, in an item with its length in another one. -/
def prepareText (arr len : Line) : Option Text :=
  (env.address arr).bind fun arrAddr =>
    (env.address len).bind fun lenAddr =>
      let n := intOfBytes (mem.read lenAddr 4)
      if 0 ≤ n then some (cstring (mem.read arrAddr n.toNat)) else none

/-- A call without a connection. -/
def callAlone : Callee → List Arg → Option Call
  | .startSQL, [] => some .startSql
  | .endSQL, [] => some .endSql
  | .setSQLParams, args => (env.sqlVar args).map .setSqlParams
  | .setResultParams, args => (env.sqlVar args).map .setResultParams
  | .setHostTable, [.value iter, .value length, .value isParent] =>
      if 0 < iter then
        some (.setHostTable iter.toNat length.toNat (isParent == 1))
      else none
  | .cursorOpen, [.sqlca, .text cname] => some (.cursorOpen cname)
  | .cursorOpenParams, [.sqlca, .text cname, .value n] =>
      some (.cursorOpenParams cname n.toNat)
  | .cursorFetchOne, [.sqlca, .text cname] => some (.cursorFetchOne cname)
  | .cursorFetchOccurs, [.sqlca, .text cname] =>
      some (.cursorFetchOccurs cname)
  | .cursorClose, [.sqlca, .text cname] => some (.cursorClose cname)
  | .prepare, [.sqlca, .text sname, .reference arr, .valueOf len] =>
      (env.prepareText mem arr len).map (.prepare sname)
  | _, _ => none

/-- A CALL of the program, as the runtime gets it. -/
def call (c : CobCall) : Option Call :=
  match c.callee.named with
  | some id =>
      (env.connection mem id c.args).bind fun a =>
        env.callOver mem a.1 c.callee a.2
  | none => env.callAlone mem c.callee c.args

end Linkage

-- ============================================================= execution

variable {σ : Type} (pq : Libpq σ) (env : Linkage)

/-- The CALLs of a program, one after the other. -/
def execCalls : List CobCall → State σ → Option (State σ)
  | [], st => some st
  | c :: cs, st =>
      ((env.call st.mem c).bind fun call => step pq call st).bind
        (execCalls cs)

/-- No host table. -/
def noTable : HostTable := ⟨0, 0, false⟩

/-- The runtime between `OCESQLStartSQL` and `OCESQLEndSQL`. -/
def withHosts (hosts : List (SqlVar × Text)) (results : List SqlVar)
    (table : HostTable) (st : State σ) : State σ :=
  { st with
    sqlVars := some hosts, sqlResVars := some results, table := table }

-- =============================================================== meaning

/-- A call of the runtime, alone or about host variables, and with RELEASE
another one behind it. -/
inductive Meaning where
  | plain (call : Call)
  | about (hosts results : List SqlVar) (table : HostTable) (call : Call)
  | release (first : Meaning) (call : Call)

/-- What the host variables hold. -/
def values (mem : Storage) (hosts : List SqlVar) : Option (List Text) :=
  hosts.mapM fun sv => createRealdata noTable mem sv 0

namespace Linkage

variable (root : CbField) (mem : Storage)

/-- The host variable as the runtime gets it; a group is none. -/
def hostVar (indexed : Bool) (name : Line) : Option SqlVar :=
  match gethostvarianttype root name with
  | .error _ => none
  | .ok v =>
      if v.type = groupType then none
      else (env.place indexed name).map
        (SqlVar.mk (hostType v.type) v.digits v.scale)

def hostVars (indexed : Bool) (names : List Line) : Option (List SqlVar) :=
  names.mapM (env.hostVar root indexed)

/-- What is in an item that is passed with its length. -/
def hostText (name : Line) : Option Text :=
  match gethostvarianttype root name with
  | .error _ => none
  | .ok v => env.bytes mem name v.digits

/-- The name of the connection, what is in the item behind AT. -/
def atdb : Option Line → Option Text
  | none => some defaultDbname
  | some dbName => env.hostText root mem dbName

/-- A statement that is sent as it is, for every row of the host table if
there is one. -/
def other (atdb query : Text) (hosts : List Line)
    (table : Int × Nat × Bool) : Option Meaning :=
  if hosts = [] then some (.plain (.exec atdb query))
  else (env.hostVars root (0 < table.1) hosts).map fun vars =>
    if 0 < table.1 then
      .about vars [] ⟨table.2.1, table.1.toNat, table.2.2⟩
        (.execParamsOccurs atdb query vars.length)
    else .about vars [] noTable (.execParams atdb query vars.length)

end Linkage

/-- The items of a group. -/
def items : CbField → List Line
  | .null => []
  | .node child _ sister => child.sname :: items sister

/-- The host table a group is: it occurs itself, or each of its items
does. -/
def Found.table (group : Found) : Option HostTable :=
  if group.data.occurs ≠ 0 then
    some ⟨getHostGroupLength group.children 0, group.data.occurs, true⟩
  else
    let info := getHostGroupTableInfo group.children (-1, 0)
    if info.1 = 0 then some noTable
    else if 0 < info.1 then some ⟨info.2, info.1.toNat, false⟩
    else none

/-- The two items of a VARYING group: the length and the text. -/
def Found.varying (group : Found) : Option (Line × Line) :=
  match group.children with
  | .node child _ (.node sister _ _) =>
      if child.sname = group.data.sname ++ "-LEN".toList
          ∧ sister.sname = group.data.sname ++ "-ARR".toList then
        some (child.sname, sister.sname)
      else none
  | _ => none

/-- COMMIT and ROLLBACK; with RELEASE the connection is given up behind
it. -/
def ended (release : Bool) (atdb text : Text) : Meaning :=
  let first := Meaning.about [] [] noTable (.exec atdb text)
  if release then .release first (.disconnect atdb) else first

/-- The variables a result goes into, with the host table. -/
def Linkage.into (root : CbField) (members : CbField → List Line)
    (names : List Line) : Option (List SqlVar × HostTable) :=
  let name := names.headD []
  match gethostvarianttype root name with
  | .error _ => none
  | .ok v =>
      if v.type = groupType then
        (getfieldbyname root name).bind fun group =>
          group.table.bind fun table =>
            (env.hostVars root (0 < table.occursIter)
              (members group.children)).map (·, table)
      else (env.hostVars root false names).map (·, noTable)

/-- The words with a branch of their own in `ppoutcontext`, except those of
`commands`. -/
def ownWords : List Line :=
  ["CONNECT".toList, "OPEN".toList, "EXECUTE".toList, "FETCH".toList,
    "COMMIT".toList, "COMMIT_RELEASE".toList, "ROLLBACK".toList,
    "ROLLBACK_RELEASE".toList, "PREPARE".toList]

end CobolExercises.Precompiler
