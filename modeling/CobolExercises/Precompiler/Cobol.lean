/-
The items of a program as COBOL describes them: which item a name means, how
many subscripts it takes, how it is represented and how many bytes it has.

# Apart from the precompiler

Nothing here is taken from what the precompiler makes of its fields. Names
are looked for in the whole program and mean an item only if there is no
other one of that name; types and sizes go by the clauses of the
description. The comparison with `getfieldbyname`, `gethostvarianttype`,
`get_host_group_length` and `get_host_group_table_info` is the second half.

# Sizes

A character takes a byte and a national one takes two. A digit takes a byte
in USAGE DISPLAY, with one more for a SEPARATE sign, and half a byte in
COMP-3, where the sign takes the other half. A VARYING item has its length
in four bytes in front. The scanner does not keep what other usages there
are, and so an item with one has no size here.

# Tables

The elements of an item that occurs are one behind the other, each with the
size of the item; those of an item in a group that occurs are apart by the
size of the group. The runtime steps otherwise, by the characters of the
pictures: `Stepped` says that it makes no difference.
-/
import CobolExercises.Precompiler.Meaning

namespace CobolExercises.Precompiler

open CobolExercises.Runtime Database

-- ================================================================= items

/-- A described item, with the groups it is in and their first items, the
innermost group first. -/
structure Item where
  data : FieldData
  children : CbField
  groups : List (FieldData × CbField)

/-- The items in the order of the program. -/
def described (groups : List (FieldData × CbField)) : CbField → List Item
  | .null => []
  | .node data children sister =>
      ⟨data, children, groups⟩
        :: (described ((data, children) :: groups) children
          ++ described groups sister)

/-- The item a name means: the only one of that name, in whatever case, and
written in the same one. -/
def itemNamed (root : CbField) (name : Line) : Option Item :=
  match (described [] root).filter fun i => comStricmp i.data.sname name with
  | [i] => if i.data.sname = name then some i else none
  | _ => none

-- ======================================================== representation

/-- An item without a picture and a usage of its own is a group. -/
def FieldData.isGroup (f : FieldData) : Bool :=
  f.pictype = .none && f.usage = .none

/-- The representation the clauses ask for, if the runtime has it. -/
def FieldData.hostType (f : FieldData) : Option HostType :=
  match f.pictype, f.usage with
  | .alphanumeric, .none => some .alphanumeric
  | .national, .none => some .japanese
  | .alphanumericVarying, .none => some .alphanumericVarying
  | .nationalVarying, .none => some .japaneseVarying
  | .numeric, .none =>
      if f.haveSign then
        if f.signLeading && f.separate then some .signedNumberLs
        else if !f.signLeading && !f.separate then some .signedNumberTc
        else none
      else some .unsignedNumber
  | .numeric, .packed =>
      some (if f.haveSign then .signedNumberPd else .unsignedNumberPd)
  | _, _ => none

/-- The bytes of an elementary item. -/
def FieldData.size (f : FieldData) : Option Nat :=
  match f.pictype, f.usage with
  | .alphanumeric, .none => some f.picnsize
  | .national, .none => some (2 * f.picnsize)
  | .alphanumericVarying, .none => some (4 + f.picnsize)
  | .nationalVarying, .none => some (4 + 2 * f.picnsize)
  | .numeric, .none =>
      some (f.picnsize + (f.haveSign && f.separate).toNat)
  | .numeric, .packed => some (f.picnsize / 2 + 1)
  | .none, .float => some 4
  | .none, .double => some 8
  | _, _ => none

/-- The bytes of a field and its sisters, with all elements of those that
occur. -/
def CbField.size : CbField → Option Nat
  | .null => some 0
  | .node data children sister =>
      (if data.isGroup then children.size else data.size).bind fun n =>
        sister.size.map (max 1 data.occurs * n + ·)

-- =============================================================== subscripts

/-- A subscript is taken for each OCCURS the item is under, its own
included. -/
def Item.subscripts (i : Item) : Nat :=
  ((i.data :: i.groups.map Prod.fst).filter (·.occurs ≠ 0)).length

/-- The elements of an item that takes one subscript, by its own OCCURS or
by that of its group. -/
def Item.elements (i : Item) : Nat :=
  if i.data.occurs ≠ 0 then i.data.occurs
  else (i.groups.head?.map fun group => group.1.occurs).getD 0

/-- From one element to the next. -/
def Item.stride (i : Item) : Option Nat :=
  if i.data.occurs ≠ 0 then i.data.size
  else i.groups.head?.bind fun group => group.2.size

-- =================================================================== tables

/-- How often the items of a group occur. -/
def occursList : CbField → List Nat
  | .null => []
  | .node data _ sister => data.occurs :: occursList sister

/-- The rows there are in all the items of a group; none if one of them does
not occur. -/
def leastOccurs (children : CbField) : Nat :=
  (occursList children).min?.getD 0

/-- The bytes of one element of each of the items of a group. -/
def rowSize : CbField → Option Nat
  | .null => some 0
  | .node data _ sister =>
      data.size.bind fun n => (rowSize sister).map (n + ·)

/-- The host table of a group: it occurs itself, or each of its items
does. -/
def hostTableOf (group : FieldData) (children : CbField) :
    Option HostTable :=
  if group.occurs ≠ 0 then
    if group.isGroup then children.size.map (⟨·, group.occurs, true⟩)
    else none
  else if leastOccurs children = 0 then some noTable
  else (rowSize children).map (⟨·, leastOccurs children, false⟩)

/-- The host table of the group an item is in. -/
def Item.table (i : Item) : Option HostTable :=
  match i.groups with
  | [] => some noTable
  | group :: _ => hostTableOf group.1 group.2

/-- The element with subscript `k` of the table is an element of the item,
where the table has it. -/
def Item.isIn (i : Item) (table : HostTable) : Bool :=
  table.occursIter ≤ i.elements
    && if table.occursIsParent then
        i.data.occurs = 0 && i.stride = some table.occursLength
      else i.data.occurs ≠ 0

section Found

variable {root field : CbField} {name : Line} {i : Item}
  {groups : List (FieldData × CbField)}

/-- The item as the precompiler would have found it. -/
def Item.found (i : Item) : Found := ⟨i.data, i.children, i.groups.head?⟩

end Found

end CobolExercises.Precompiler
