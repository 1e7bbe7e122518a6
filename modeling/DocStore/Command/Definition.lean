import DocStore.Schema.Column
import DocStore.Sql.JsonPath
import DocStore.Sql.Statement

/-!
# Statements that define tables

Statements that create, change and drop class tables, join tables, constraints and indexes.  Names
are parameters throughout; column types and fixed clauses are part of the text.

The name of a constraint or index is made of its sorted fields (`indexName`), so that asking for
the same one again meets the one that is there.
-/

namespace DocStore

open Sql

namespace Column

/-- The definition of a column whose name is parameter `n`. -/
def definition (n : Nat) (c : Column) : Template :=
  sql [.slot n, " ", c.type.sql,
    match c.modifier with
    | some modifier => sql [" ", modifier]
    | none => []]

/-- The definitions of columns; their names are the parameters from `n` on. -/
def definitions (n : Nat) : List Column → List Template
  | [] => []
  | c :: rest => c.definition n :: definitions (n + 1) rest

/-- What follows a column's name when it is added to a table. -/
def addedType (name : String) (type : FieldType) : String :=
  if type = .date then "TIMESTAMP(6) NULL DEFAULT NULL" else (ColumnType.ofField name type).sql

end Column

namespace Sql.Statement

/-- Create a class table; `objectId` is its key. -/
def createTable (table : String) (columns : List Column) : Statement where
  text :=
    sql ["CREATE TABLE IF NOT EXISTS ", .slot 1, " (",
      .join ", " (Column.definitions 2 columns ++
        [sql ["PRIMARY KEY (", .slot (2 + columns.length), ")"]]), ")"]
  params := .ident table :: columns.map (fun c => .ident c.name) ++ [.ident "objectId"]

/-- Create the table of a relation, with a row for every related pair. -/
def createJoinTable (table : String) : Statement where
  text :=
    sql ["CREATE TABLE IF NOT EXISTS ", .slot 1,
      " (`relatedId` VARCHAR(120), `owningId` VARCHAR(120), ",
      "PRIMARY KEY (`relatedId`, `owningId`))"]
  params := [.ident table]

/-- Add the column of a field. -/
def addColumn (table field : String) (type : FieldType) : Statement where
  text := sql ["ALTER TABLE ", .slot 1, " ADD COLUMN ", .slot 2, " ", Column.addedType field type]
  params := [.ident table, .ident field]

/-- Drop columns. -/
def dropColumns (table : String) (columns : List String) : Statement where
  text :=
    sql ["ALTER TABLE ", .slot 1, " ",
      .join ", " ((slotsFrom 2 columns.length).map fun column => sql ["DROP COLUMN ", column])]
  params := .ident table :: columns.map .ident

/-- Drop a table. -/
def dropTable (table : String) : Statement where
  text := sql ["DROP TABLE IF EXISTS ", .slot 1]
  params := [.ident table]

/-- The name of a constraint or index over fields, whatever their order. -/
def indexName (kind : String) (fields : List String) : String :=
  kind ++ "_" ++ "_".intercalate (fields.mergeSort fun a b => a ≤ b)

/-- Add a constraint or index; `before` and `behind` stand around its name. -/
def addIndex (table before name behind : String) (fields : List String) : Statement where
  text :=
    sql ["ALTER TABLE ", .slot 1, " ADD ", before, .slot 2, behind, " (",
      .join ", " (slotsFrom 3 fields.length), ")"]
  params := .ident table :: .ident name :: fields.map .ident

/-- Add a unique constraint over fields. -/
def addUnique (table : String) (fields : List String) : Statement :=
  addIndex table "CONSTRAINT " (indexName "unique" fields) " UNIQUE" fields

/-- Add a full-text index over fields. -/
def addFullText (table : String) (fields : List String) : Statement :=
  addIndex table "FULLTEXT INDEX " (indexName "fts" fields) "" fields

/-- Count the tables with a name; the count is called `found`. -/
def findTable (name : String) : Statement where
  text :=
    sql ["SELECT COUNT(*) AS `found` FROM information_schema.tables ",
      "WHERE table_schema = DATABASE() AND table_name = ", .slot 1]
  params := [.text name]

end Sql.Statement

end DocStore
