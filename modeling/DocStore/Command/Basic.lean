import DocStore.Command.Definition
import DocStore.Command.Registry
import DocStore.Command.Selection
import DocStore.Row.Encoding
import DocStore.Update.Lowering

/-!
# Commands

A `Command` is what the store asks of the engine, in the store's own terms.  `Command.toStatement`
writes it as a statement; every command has one.

Commands that name rows carry a filter, and commands that change rows the changes, so that what a
command means can be said without reading SQL.  The commands about the documents a query finds
(`Query.countCommand` and the three after it) are made from the query, once its condition compiles.
-/

namespace DocStore

open Sql

/-- What is asked of the engine. -/
inductive Command where
  | createRegistry (registry : String)
  /-- Add the row of a class to the registry. -/
  | register (registry className : String) (schema : Json)
  /-- Read the registered type of a field. -/
  | selectField (registry className field : String)
  | registerField (registry className field : String) (type : FieldType)
  /-- Set a member of a registered schema. -/
  | setMember (registry className member : String) (value : Json)
  /-- Read the rows of all classes, or of one. -/
  | selectClasses (registry : String) (only : Option String)
  | createTable (table : String) (columns : List Column)
  | createJoinTable (table : String)
  | addColumn (table field : String) (type : FieldType)
  | dropColumns (table : String) (columns : List String)
  /-- Drop the table of a class and its row in the registry. -/
  | dropClass (registry className : String)
  | dropTables (tables : List String)
  | addUnique (table : String) (fields : List String)
  | addFullText (table : String) (fields : List String)
  /-- Count the tables with a name. -/
  | findTable (name : String)
  | insert (table : String) (row : EncodedRow)
  | select (table : String) (selection : Selection)
  | count (table : String) (filter : Filter)
  | update (table : String) (changes : List Change) (filter : Filter)
  | delete (table : String) (filter : Filter)
  /-- A statement that the caller wrote. -/
  | statement (s : Statement)

namespace Sql.Statement

/-- Count rows; the count is called `count`. -/
def countRows (table : String) (filter : Filter) : Statement :=
  let w := filter.whereClause.shift 1
  { text := sql ["SELECT COUNT(*) AS `count` FROM ", .slot 1, " WHERE ", w.condition]
    params := .ident table :: w.params }

/-- Change rows.  The parameters of the assignments come before those of the condition. -/
def updateRows (table : String) (changes : List Change) (filter : Filter) : Statement :=
  let s := (SetClause.ofChanges changes).shift 1
  let w := filter.whereClause.shift (1 + s.params.length)
  { text :=
      sql ["UPDATE ", .slot 1, " SET ", .join ", " s.assignments, " WHERE ", w.condition]
    params := .ident table :: s.params ++ w.params }

/-- Delete rows. -/
def deleteRows (table : String) (filter : Filter) : Statement :=
  let w := filter.whereClause.shift 1
  { text := sql ["DELETE FROM ", .slot 1, " WHERE ", w.condition]
    params := .ident table :: w.params }

/-- Drop a class table and its row in the registry. -/
def dropClass (registry className : String) : Statement :=
  batch [dropTable className, unregister registry className]

/-- Drop tables in order. -/
def dropTables (tables : List String) : Statement := batch (tables.map dropTable)

end Sql.Statement

namespace Command

/-- The statement of a command. -/
def toStatement : Command → Statement
  | .createRegistry registry => .createRegistry registry
  | .register registry className schema => .register registry className schema
  | .selectField registry className field => .selectField registry className field
  | .registerField registry className field type => .registerField registry className field type
  | .setMember registry className member value => .setMember registry className member value
  | .selectClasses registry only => .selectClasses registry only
  | .createTable table columns => .createTable table columns
  | .createJoinTable table => .createJoinTable table
  | .addColumn table field type => .addColumn table field type
  | .dropColumns table columns => .dropColumns table columns
  | .dropClass registry className => .dropClass registry className
  | .dropTables tables => .dropTables tables
  | .addUnique table fields => .addUnique table fields
  | .addFullText table fields => .addFullText table fields
  | .findTable name => .findTable name
  | .insert table row => row.insertStatement table
  | .select table selection => selection.statement table
  | .count table filter => .countRows table filter
  | .update table changes filter => .updateRows table changes filter
  | .delete table filter => .deleteRows table filter
  | .statement s => s

/-- The SQL text of a command. -/
def render (c : Command) : Except Fault String := c.toStatement.render

/-! ### Commands for classes and fields -/

/-- Create a class table and the join tables of its relations. -/
def createTables (className : String) (schema : ClassSchema) : List Command :=
  .createTable className schema.columns ::
    schema.relationFields.map fun field => .createJoinTable (Names.joinTable className field)

/-- Create what holds the values of a field: a column, or a join table. -/
def addField (className field : String) (type : FieldType) : Command :=
  if type.isRelation then .createJoinTable (Names.joinTable className field)
  else .addColumn className field type

/-- Replace the fields of a registered schema. -/
def setFields (registry className : String) (fields : Json) : Command :=
  .setMember registry className "fields" fields

/-- Replace the permissions of a registered schema. -/
def setPermissions (registry className : String) (permissions : Permissions) : Command :=
  .setMember registry className "classLevelPermissions" permissions.toJson

/-- Drop columns, if there are any to drop. -/
def dropColumns? (table : String) (columns : List String) : Option Command :=
  if columns.isEmpty then none else some (.dropColumns table columns)

end Command

/-! ### Commands of queries -/

namespace Query

/-- What is asked to count the documents that a query finds. -/
def countCommand (className : String) (schema : ClassSchema) (q : Query) : Except Fault Command :=
  (q.filter schema).map (.count className)

/-- What is asked to delete the documents that a query finds. -/
def deleteCommand (className : String) (schema : ClassSchema) (q : Query) : Except Fault Command :=
  (q.filter schema).map (.delete className)

/-- What is asked to update the documents that a query finds. -/
def updateCommand (className : String) (schema : ClassSchema) (q : Query) (u : Update) :
    Except Fault Command := do
  let changes ← u.changes schema
  let filter ← q.filter schema
  return .update className changes filter

/-- What is asked to read the documents that a query finds. -/
def selectCommand (className : String) (schema : ClassSchema) (q : Query) (options : FindOptions) :
    Except Fault Command :=
  (q.select schema options).map (.select className)

end Query

end DocStore
