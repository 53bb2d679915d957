/-
The SQL the programs send, and its effect on the database.

A row is the list of its column names and values, in the order of the
columns. A SERIAL column takes the next number of its table when the
INSERT does not name it; any other column is null then. Types and
lengths are not checked here: whatever else makes PostgreSQL reject a
statement is the server's to decide (`Transaction.Server.handle`).

DDL is transactional, so DROP and CREATE are effects like INSERT.
-/
import CobolExercises.Field
import CobolExercises.Lib.Transaction
import Mathlib.Logic.Function.Basic

namespace CobolExercises.Database

open Lib

-- ============================================================= the tables

/-- What a column holds in a row. -/
inductive Value where
  | null
  | serial (n : Nat)
  | text (s : List Char)
deriving DecidableEq

/-- A column and whether it is SERIAL. -/
structure Column where
  name : String
  serial : Bool
deriving DecidableEq

/-- A row: the value of every column by its name. -/
abbrev Row := List (String × Value)

structure Table where
  columns : List Column
  rows : List Row
  nextSerial : Nat
deriving DecidableEq

/-- The tables by their names. -/
abbrev Tables := String → Option Table

-- ============================================================ the queries

/-- The statements the programs send. -/
inductive Query where
  | begin
  | commit
  | rollback
  | dropTableIfExists (table : String)
  | createTable (table : String) (columns : List Column)
  | insert (table : String) (values : List (String × List Char))
deriving DecidableEq

namespace Table

/-- `CREATE TABLE`. -/
def fresh (columns : List Column) : Table := ⟨columns, [], 1⟩

/-- The value a new row gets in column `c`. -/
def valueOf (t : Table) (values : List (String × List Char)) (c : Column) :
    Value :=
  match values.lookup c.name with
  | some s => .text s
  | none => if c.serial then .serial t.nextSerial else .null

/-- `INSERT INTO t (names) VALUES (values)`: one row more, unless a name is
none of the table's columns. -/
def insert (t : Table) (values : List (String × List Char)) :
    Option Table :=
  if values.all fun v => t.columns.any fun c => c.name == v.1 then
    some { t with
      rows := t.rows ++ [t.columns.map fun c => (c.name, t.valueOf values c)]
      nextSerial := t.nextSerial + 1 }
  else none

end Table

/-- What a statement makes of the database, if the tables allow it; BEGIN,
COMMIT and ROLLBACK are the server's own. -/
def Query.effect : Query → Tables → Option Tables
  | .dropTableIfExists table, db => some (Function.update db table none)
  | .createTable table columns, db =>
      match db table with
      | none => some (Function.update db table (some (.fresh columns)))
      | some _ => none
  | .insert table values, db =>
      match db table with
      | none => none
      | some t =>
          (t.insert values).map fun t => Function.update db table (some t)
  | _, db => some db

/-- The request a query is for the server. -/
def Query.request : Query → Transaction.Request Tables
  | .begin => .begin
  | .commit => .commit
  | .rollback => .rollback
  | q => .exec q.effect

/-- A query other than BEGIN, COMMIT and ROLLBACK. -/
def Query.isStatement : Query → Bool
  | .begin | .commit | .rollback => false
  | _ => true

theorem Query.request_of_isStatement {q : Query}
    (h : q.isStatement = true) : q.request = .exec q.effect := by
  cases q with
  | begin | commit | rollback => cases h
  | dropTableIfExists | createTable | insert => rfl

section Effects

variable {db : Tables} {table : String} {t t' : Table}

/-- CREATE behind a DROP of the same table. -/
theorem effect_createTable (db : Tables) (table : String)
    (columns : List Column) :
    (Query.createTable table columns).effect (Function.update db table none)
      = some (Function.update db table (some (.fresh columns))) := by
  simp [Query.effect]

/-- INSERT changes its table only. -/
theorem effect_insert {values : List (String × List Char)}
    (h : t.insert values = some t') :
    (Query.insert table values).effect (Function.update db table (some t))
      = some (Function.update db table (some t')) := by
  simp [Query.effect, h]

end Effects

end CobolExercises.Database
