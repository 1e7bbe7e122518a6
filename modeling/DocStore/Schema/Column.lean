import DocStore.Schema.Basic

/-!
# Columns of class tables

Every field of the storage view except the relations has a column.  String fields that serve as
natural keys are bounded, so that they can carry a unique constraint.
-/

namespace DocStore

/-- The type of a column. -/
inductive ColumnType where
  /-- A string short enough for an index. -/
  | keyString
  | objectId
  | text
  | double
  | boolean
  | timestamp
  | json
  | point
  deriving DecidableEq, Repr

namespace ColumnType

/-- The type in SQL. -/
def sql : ColumnType → String
  | .keyString => "VARCHAR(120)"
  | .objectId => "CHAR(10)"
  | .text => "TEXT"
  | .double => "DOUBLE PRECISION"
  | .boolean => "BOOLEAN"
  | .timestamp => "TIMESTAMP(6)"
  | .json => "JSON"
  | .point => "POINT"

/-- String fields that serve as keys. -/
def naturalKeys : List String := ["objectId", "username", "email", "name"]

/-- The column type of a field. -/
def ofField (name : String) : FieldType → ColumnType
  | .string => if naturalKeys.contains name then .keyString else .text
  | .file => .text
  | .number => .double
  | .boolean => .boolean
  | .date => .timestamp
  | .object | .array | .arrayOf _ | .bytes => .json
  | .geoPoint => .point
  | .pointer _ | .relation _ => .objectId

end ColumnType

/-- A column of a table. -/
structure Column where
  name : String
  type : ColumnType
  /-- What follows the type. -/
  modifier : Option String
  deriving DecidableEq, Repr

namespace Column

/-- The column of a field. -/
def ofField (name : String) (type : FieldType) : Column where
  name
  type := .ofField name type
  modifier :=
    if type = .date then
      if name = "createdAt" then some "DEFAULT CURRENT_TIMESTAMP(6)"
      else if name = "updatedAt" then
        some "DEFAULT CURRENT_TIMESTAMP(6) ON UPDATE CURRENT_TIMESTAMP(6)"
      else some "NULL"
    else none

end Column

/-- The columns of a class table, the identifier first. -/
def ClassSchema.columns (s : ClassSchema) : List Column :=
  .ofField "objectId" .string ::
    (s.storage.fields.entries.filter fun e => e.1 != "objectId" && !e.2.isRelation).map
      fun e => .ofField e.1 e.2

end DocStore
