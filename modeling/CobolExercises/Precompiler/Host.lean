/-
Host variables as the precompiler knows them: the fields of
WORKING-STORAGE (`cb_field`), and what a CALL says of them
(`gethostvarianttype`, `ppoutputparam`, `ppoutputresgroup`).

# Fields

A field has its first child and its next sister, and NULL is `null`. A name
is looked for in the field, then in its sisters with all that is under
them, then in its children; the first one found is meant, whatever the
field around it is.

# Representation

A picture with N and another kind of character has no type the source
decides, and is left out. Neither are there levels 66, 77, 78 and 88: the
scanner skips them.
-/
import CobolExercises.Precompiler.SqlString

namespace CobolExercises.Precompiler

-- ================================================================ fields

/-- `enum oc_usage`. -/
inductive Usage where
  | none
  | float
  | double
  | packed
  | binaryNative
  | other
deriving DecidableEq

/-- `PIC_...`, and nothing for a field without a picture. -/
inductive PicType where
  | none
  | numeric
  | alphanumeric
  | national
  | alphanumericVarying
  | nationalVarying
deriving DecidableEq

/-- `cb_field`, without the pointers. -/
structure FieldData where
  sname : Line
  level : Nat
  usage : Usage
  occurs : Nat
  pictype : PicType
  picnsize : Nat
  scale : Nat
  haveSign : Bool
  signLeading : Bool
  separate : Bool
deriving DecidableEq

/-- `cb_field`; `null` is NULL. -/
inductive CbField where
  | null
  | node (data : FieldData) (children sister : CbField)

/-- A field that was found, with its `children` and its `parent`. -/
structure Found where
  data : FieldData
  children : CbField
  parent : Option (FieldData × CbField)

/-- `getfieldbynamefrom`. -/
def getfieldbynamefrom (name : Line) (parent : Option (FieldData × CbField)) :
    CbField → Option Found
  | .null => none
  | .node data children sister =>
      if name = data.sname then some ⟨data, children, parent⟩
      else
        (getfieldbynamefrom name parent sister).or
          (getfieldbynamefrom name (some (data, children)) children)

/-- `getfieldbyname`; `root` is `description_field`. -/
def getfieldbyname (root : CbField) (name : Line) : Option Found :=
  getfieldbynamefrom name none root

-- ================================================================= types

/-- `ERR_...`, what is written into the error file for a host variable. -/
inductive HostError where
  | notdefWorking
  | notdefConversion
  | prepareIsntGroup
  | prepareInvalidParam
  | notSupportedUsage
deriving DecidableEq

/-- `HVARTYPE_GROUP`. -/
def groupType : Nat := 22

/-- `*type`, `*digits` and `*scale`. -/
structure HostVariant where
  type : Nat
  digits : Nat
  scale : Int
deriving DecidableEq

/-- `HVARTYPE_...` of a numeric picture. -/
def numericType (p : FieldData) : Except HostError Nat :=
  if p.haveSign then
    match p.usage with
    | .packed => .ok 9
    | .binaryNative => .ok 14
    | .none =>
        .ok (if p.signLeading then if p.separate then 4 else 5
          else if p.separate then 2 else 3)
    | _ => .error .notSupportedUsage
  else
    match p.usage with
    | .packed => .ok 8
    | .binaryNative => .ok 13
    | .none => .ok 1
    | _ => .error .notSupportedUsage

/-- A field under this one has children. -/
def hasGroups : CbField → Bool
  | .null => false
  | .node _ children sister =>
      (match children with
        | .null => false
        | .node .. => true)
      || hasGroups sister

/-- `HVARTYPE_...`; what has no picture is a group. -/
def hvartype (p : FieldData) (children : CbField) : Except HostError Nat :=
  match p.pictype with
  | .alphanumeric => .ok 16
  | .national => .ok 24
  | .numeric => numericType p
  | .alphanumericVarying => .ok 30
  | .nationalVarying => .ok 31
  | .none =>
      if 0 < p.occurs && hasGroups children then .error .notdefConversion
      else .ok groupType

/-- `gethostvarianttype`. -/
def gethostvarianttype (root : CbField) (name : Line) :
    Except HostError HostVariant :=
  match getfieldbyname root name with
  | none => .error .notdefWorking
  | some p =>
      (hvartype p.data p.children).map fun type =>
        ⟨type, p.data.picnsize, -p.data.scale⟩

-- =========================================================== host tables

/-- The bytes a field is counted with. -/
def FieldData.counted (f : FieldData) : Nat :=
  if f.pictype = .national ∨ f.pictype = .nationalVarying then f.picnsize * 2
  else f.picnsize

/-- `get_host_group_length`. -/
def getHostGroupLength : CbField → Nat → Nat
  | .null, length => length
  | .node data _ sister, length =>
      getHostGroupLength sister (length + data.counted)

/-- `get_host_group_table_info`: `*iteration` and `*length`. -/
def getHostGroupTableInfo : CbField → Int × Nat → Int × Nat
  | .null, info => info
  | .node data _ sister, (iteration, length) =>
      getHostGroupTableInfo sister
        (if data.occurs = 0 then 0
          else if iteration = -1 ∨ (data.occurs : Int) < iteration then
            data.occurs
          else iteration,
          length + data.counted)

-- ================================================================= calls

/-- What is passed: SQLCA, an item or its first element by reference, a text
with a zero byte behind it, a number or an item by value. -/
inductive Arg where
  | sqlca
  | reference (name : Line)
  | element (name : Line)
  | text (text : Line)
  | value (n : Int)
  | valueOf (name : Line)
deriving DecidableEq

/-- The functions of the runtime, without the `OCESQL` in front; `id` says
that it is the one with `ID` in its name. -/
inductive Callee where
  | connect (id : Bool)
  | connectInformal (id : Bool)
  | connectShort (id : Bool)
  | disconnect (id : Bool)
  | exec (id : Bool)
  | execParams (id : Bool)
  | execParamsOccurs (id : Bool)
  | prepare
  | execPrepare (id : Bool)
  | cursorDeclare (id : Bool)
  | cursorDeclareParams (id : Bool)
  | preparedCursorDeclare (id : Bool)
  | cursorOpen
  | cursorOpenParams
  | cursorFetchOne
  | cursorFetchOccurs
  | cursorClose
  | execSelectIntoOne (id : Bool)
  | execSelectIntoOccurs (id : Bool)
  | startSQL
  | endSQL
  | setSQLParams
  | setResultParams
  | setHostTable
deriving DecidableEq

/-- `CALL ... USING ... END-CALL`. -/
structure CobCall where
  callee : Callee
  args : List Arg
deriving DecidableEq

/-- What a function of the precompiler writes into the program and into the
error file; `returned` says that it has returned early. -/
structure Emit where
  calls : List CobCall
  errors : List (Line × HostError)
  returned : Bool
deriving DecidableEq

namespace Emit

def nil : Emit := ⟨[], [], false⟩

def call (callee : Callee) (args : List Arg) : Emit :=
  ⟨[⟨callee, args⟩], [], false⟩

/-- `printerrormsg`. -/
def error (name : Line) (e : HostError) : Emit := ⟨[], [(name, e)], false⟩

/-- `printerrormsg` and `return`. -/
def fail (name : Line) (e : HostError) : Emit := ⟨[], [(name, e)], true⟩

/-- One behind the other, unless the first has returned. -/
def append (a b : Emit) : Emit :=
  if a.returned then a
  else ⟨a.calls ++ b.calls, a.errors ++ b.errors, b.returned⟩

instance : Append Emit := ⟨append⟩

/-- Two functions called one after the other. -/
def andThen (a b : Emit) : Emit :=
  ⟨a.calls ++ b.calls, a.errors ++ b.errors, b.returned⟩

end Emit

/-- The arguments for a host variable. -/
def hostArgs (varface : Line) (v : HostVariant) (iteration : Int) : List Arg :=
  [.value v.type, .value v.digits, .value v.scale,
    if 0 < iteration then .element varface else .reference varface]

/-- `_ppoutputparam`. -/
def ppoutputparamCall (varface : Line) (v : HostVariant) (iteration : Int) :
    Emit :=
  .call .setSQLParams (hostArgs varface v iteration)

/-- The children of a group in `ppoutputparam`; the number is `count`. -/
def ppoutputparamGroup (root : CbField) (iteration : Int) :
    CbField → Nat × Emit
  | .null => (0, .nil)
  | .node f _ sister =>
      match gethostvarianttype root f.sname with
      | .error e => (0, .error f.sname e)
      | .ok v =>
          let rest := ppoutputparamGroup root iteration sister
          (rest.1 + 1, ppoutputparamCall f.sname v iteration ++ rest.2)

/-- `ppoutputparam`. -/
def ppoutputparam (root : CbField) (hostreference : Line) (iteration : Int) :
    Nat × Emit :=
  match gethostvarianttype root hostreference with
  | .error e => (0, .error hostreference e)
  | .ok v =>
      if v.type = groupType then
        match getfieldbyname root hostreference with
        | none => (0, .error hostreference .notdefWorking)
        | some f => ppoutputparamGroup root iteration f.children
      else (1, ppoutputparamCall hostreference v iteration)

/-- The host variables of a statement, with the sum of the counts. -/
def ppoutputparams (root : CbField) (iteration : Int) :
    List Line → Nat × Emit
  | [] => (0, .nil)
  | host :: hosts =>
      let first := ppoutputparam root host iteration
      let rest := ppoutputparams root iteration hosts
      (first.1 + rest.1, first.2 ++ rest.2)

/-- `ppoutputresparam`. -/
def ppoutputresparam (varface : Line) (v : HostVariant) (iteration : Int) :
    Emit :=
  .call .setResultParams (hostArgs varface v iteration)

/-- `ppoutputresgroup`. -/
def ppoutputresgroup (root : CbField) (iteration : Int) : CbField → Emit
  | .null => .nil
  | .node cf children sister =>
      match gethostvarianttype root cf.sname with
      | .error e => .error cf.sname e
      | .ok v =>
          (if v.type = groupType then ppoutputresgroup root iteration children
            else ppoutputresparam cf.sname v iteration)
          ++ ppoutputresgroup root iteration sister

/-- The loops of FETCH and SELECT INTO over their result variables. -/
def ppoutputresparams (root : CbField) (iteration : Int) : List Line → Emit
  | [] => .nil
  | host :: hosts =>
      match gethostvarianttype root host with
      | .error e => .fail host e
      | .ok v =>
          ppoutputresparam host v iteration
            ++ ppoutputresparams root iteration hosts

end CobolExercises.Precompiler
