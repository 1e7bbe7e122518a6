import DocStore.Schema.Basic
import DocStore.Sql.JsonPath
import DocStore.Sql.Statement

/-!
# Statements on the registry

The registry is a table with one row for every class: its name, its schema as a JSON document, and
a mark.  These statements create the registry, add and remove rows, read them, and set members of
a schema document.
-/

namespace DocStore

open Sql

namespace Sql.Statement

/-- Create the registry. -/
def createRegistry (registry : String) : Statement where
  text :=
    sql ["CREATE TABLE IF NOT EXISTS ", .slot 1,
      " (`className` VARCHAR(120), `schema` JSON, ",
      "`isParseClass` BOOL, PRIMARY KEY (`className`))"]
  params := [.ident registry]

/-- Add the row of a class. -/
def register (registry className : String) (schema : Json) : Statement where
  text :=
    sql ["INSERT INTO ", .slot 1, " (`className`, `schema`, `isParseClass`) VALUES (", .slot 2,
      ", CAST(", .slot 3, " AS JSON), TRUE)"]
  params := [.ident registry, .text className, .json schema]

/-- Read the registered type of a field. -/
def selectField (registry className field : String) : Statement where
  text :=
    sql ["SELECT JSON_EXTRACT(`schema`, ", .slot 1, ") AS `field` FROM ", .slot 2,
      " WHERE `className` = ", .slot 3]
  params := [.text (jsonPath ["fields", field]), .ident registry, .text className]

/-- Register a field; the object of fields is created if there is none. -/
def registerField (registry className field : String) (type : FieldType) : Statement where
  text :=
    sql ["UPDATE ", .slot 1, " SET `schema` = JSON_SET(COALESCE(`schema`, JSON_OBJECT()), ",
      .slot 2, ", COALESCE(JSON_EXTRACT(`schema`, ", .slot 2, "), JSON_OBJECT()), ",
      .slot 3, ", CAST(", .slot 4, " AS JSON)) WHERE `className` = ", .slot 5]
  params :=
    [.ident registry, .text (jsonPath ["fields"]), .text (jsonPath ["fields", field]),
      .json type.toJson, .text className]

/-- Set a member of a schema document. -/
def setMember (registry className member : String) (value : Json) : Statement where
  text :=
    sql ["UPDATE ", .slot 1, " SET `schema` = JSON_SET(COALESCE(`schema`, JSON_OBJECT()), ",
      .slot 2, ", CAST(", .slot 3, " AS JSON)) WHERE `className` = ", .slot 4]
  params := [.ident registry, .text (jsonPath [member]), .json value, .text className]

/-- Remove the row of a class. -/
def unregister (registry className : String) : Statement where
  text := sql ["DELETE FROM ", .slot 1, " WHERE `className` = ", .slot 2]
  params := [.ident registry, .text className]

/-- Read the rows of all classes, or of the one with exactly this name. -/
def selectClasses (registry : String) : Option String → Statement
  | none =>
    { text := sql ["SELECT `className`, `schema` FROM ", .slot 1], params := [.ident registry] }
  | some className =>
    { text :=
        sql ["SELECT `className`, `schema` FROM ", .slot 1,
          " WHERE `className` COLLATE utf8mb4_bin = ", .slot 2]
      params := [.ident registry, .text className] }

end Sql.Statement

end DocStore
