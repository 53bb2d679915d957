/-
What the statements of a program mean, by the COBOL descriptions of the items
they name.

# Meaning

Commands are known in any case. A host variable is an elementary item with
the representation of its clauses, and takes a subscript exactly where the
statement goes through a host table. An INSERT, UPDATE or DELETE goes through
the table of the group its first host variable is in, and the other ones are
in that table too; a FETCH or SELECT INTO goes through that of the group it
fills.

A statement means nothing if it names an item that is not there or not the
only one of its name, a group or a representation the runtime does not have
where one value is needed, or an item with another number of subscripts; nor
does a SELECT INTO a host table with host variables of its own.

# What is asked of it

The compiled statement does what is meant (`meaning_of_intended`) if it is
written properly (`Statement.Proper`), and if the elements of tables are
where the runtime looks for them (`Stepped`).
-/
import CobolExercises.Precompiler.Cobol
import CobolExercises.Precompiler.Compile

namespace CobolExercises.Precompiler

open Lib.Traverse CobolExercises.Runtime Database

-- ================================================================= writing

/-- A statement that is sent as it is keeps its words: no FOR in front of
its first SELECT. -/
def keepsWords : List SqlItem → Bool
  | [] => true
  | .word text :: items =>
      comStricmp text "SELECT".toList
        || (!comStricmp text "FOR".toList && keepsWords items)
  | .host _ :: items | .currentOf _ :: items => keepsWords items

namespace Linkage

variable (env : Linkage) (root : CbField) (mem : Storage)

/-- The host variable an item is, with a subscript or without one. -/
def itemVar (indexed : Bool) (name : Line) : Option SqlVar :=
  (itemNamed root name).bind fun i =>
    if i.subscripts = indexed.toNat then
      i.data.hostType.bind fun type =>
        (env.place indexed name).map
          (SqlVar.mk type i.data.picnsize (-i.data.scale))
    else none

/-- The host variable an item of a host table is. -/
def rowVar (table : HostTable) (name : Line) : Option SqlVar :=
  (itemNamed root name).bind fun i =>
    if i.isIn table then env.itemVar root true name else none

/-- INSERT, UPDATE and DELETE: for each row of the table the first host
variable is in. -/
def change (atdb query : Text) (hosts : List Line) : Option Meaning :=
  match hosts with
  | [] => some (.plain (.exec atdb query))
  | first :: _ =>
      (itemNamed root first).bind fun i =>
        i.table.bind fun table =>
          if table.occursIter = 0 then
            (hosts.mapM (env.itemVar root false)).map fun vars =>
              .about vars [] noTable (.execParams atdb query vars.length)
          else
            (hosts.mapM (env.rowVar root table)).map fun vars =>
              .about vars [] table (.execParamsOccurs atdb query vars.length)

/-- A PREPARE from a group of a length and a text: the text with that
length. The length is a binary number of four bytes. -/
def prepares (sname host : Line) : Option Meaning :=
  (itemNamed root host).bind fun group =>
    if group.data.isGroup ∧ group.subscripts = 0 then
      group.found.varying.bind fun pair =>
        (itemNamed root pair.1).bind fun len =>
          (itemNamed root pair.2).bind fun arr =>
            if len.subscripts = 0 ∧ len.data.pictype = .numeric
                ∧ len.data.usage = .other ∧ arr.subscripts = 0
                ∧ arr.data.hostType = some .alphanumeric then
              (env.prepareText mem pair.2 pair.1).map fun text =>
                .plain (.prepare sname text)
            else none
    else none

end Linkage

section Writing

variable {keyword last : Line} {items : List SqlItem}

/-- Without a FOR that is lost, the parser gets the words of the program. -/
theorem scanned_of_keepsWords (h : keepsWords items = true) :
    scanned last items = items := by
  induction items generalizing last with
  | nil => rfl
  | cons item items ih =>
      cases item with
      | host name => exact congrArg (SqlItem.host name :: ·) (ih h)
      | currentOf cursor => exact congrArg (SqlItem.currentOf cursor :: ·) (ih h)
      | word text =>
          rw [keepsWords, Bool.or_eq_true, Bool.and_eq_true,
            Bool.not_eq_true'] at h
          rw [scanned]
          by_cases hselect : comStricmp text "SELECT".toList = true
          · rw [if_pos hselect]
          · obtain ⟨hfor, hitems⟩ := h.resolve_left hselect
            rw [if_neg hselect, hfor, if_neg Bool.false_ne_true, ih hitems]

end Writing

-- ========================================================== host variables

section Items

variable {env : Linkage} {root : CbField} {mem : Storage} {name : Line}
  {names : List Line} {indexed : Bool} {sv : SqlVar} {vars : List SqlVar}
  {i : Item}

end Items

-- ================================================================== tables

section Tables

variable {env : Linkage} {root : CbField} {name : Line} {names : List Line}
  {i : Item} {table : HostTable} {l : CbExec}

end Tables

-- ================================================================= results

section Results

variable {env : Linkage} {root field : CbField} {names : List Line}
  {groups : List (FieldData × CbField)} {indexed : Bool} {i : Item}

end Results

-- ============================================================== statements

section Statements

variable {env : Linkage} {root : CbField} {mem : Storage}
  {filenameID keyword : Line} {sqlnum : Nat} {e : Embedded}
  {items : List SqlItem} {m : Meaning}

end Statements

end CobolExercises.Precompiler
