import DocStore.Document.GeoPoint
import DocStore.Document.Marker
import DocStore.Schema.Basic
import DocStore.Sql.Statement

/-!
# Documents as rows

`EncodedRow.ofObject` lowers a document to the values of its columns.  Dotted keys are expanded
and provider keys folded first; `null` values and relations are left out; a value that does not
have its field's type is refused.  Points are kept apart, because they are written as calls of
`POINT` behind all other values.

The point of time "now" is an argument: an `updatedAt` date without its `iso` entry asks for it.
-/

namespace DocStore

open Sql

/-- The column values of one document. -/
structure EncodedRow where
  /-- Columns and values other than points. -/
  values : List (String × Param)
  points : List (String × GeoPoint)
  deriving DecidableEq, Repr

namespace EncodedRow

/-- Nothing would be inserted. -/
def isEmpty (row : EncodedRow) : Bool := row.values.isEmpty && row.points.isEmpty

/-- What one field of a document becomes. -/
inductive Cell where
  | skip
  | value (p : Param)
  | point (p : GeoPoint)

/-- The value of a date field. -/
def encodeDate (now : String) (field : String) (data : Json) : Except Fault Param :=
  if field = "updatedAt" ∧ data.typeTag? = some "Date" ∧ data.get? "iso" = none then
    .ok (.text now)
  else
    (Document.dateText? field data).map fun text =>
      match text with
      | some t => .text t
      | none => .value .null

/-- The value of a field of a type. -/
def encodeCell (now : String) (field : String) (type : FieldType) (data : Json) :
    Except Fault Cell :=
  let expected {α : Type} (what : String) : Except Fault α :=
    .error (.incorrectType field ("expected " ++ what))
  match type with
  | .relation _ => .ok .skip
  | .geoPoint =>
    match GeoPoint.ofJson? data with
    | some p => .ok (.point p)
    | none => expected "a GeoPoint"
  | .date => (encodeDate now field data).map .value
  | .pointer _ =>
    match Document.pointerId? data, data with
    | some id, _ => .ok (.value (.text id))
    | none, .str id => .ok (.value (.text id))
    | none, _ => expected "a Pointer"
  | .array | .arrayOf _ => if data.isArray then .ok (.value (.json data)) else expected "an Array"
  | .object => if data.isObject then .ok (.value (.json data)) else expected "an Object"
  | .bytes => .ok (.value (.json data))
  | .string =>
    match data with
    | .str _ => .ok (.value (.value data))
    | _ => expected "a String"
  | .number =>
    match data with
    | .num _ => .ok (.value (.value data))
    | .str s => if s.isEmpty then .ok (.value (.value (.ofInt 0))) else expected "a Number"
    | .bool false => .ok (.value (.value (.ofInt 0)))
    | _ => expected "a Number"
  | .boolean =>
    match data with
    | .bool _ => .ok (.value (.value data))
    | _ => expected "a Boolean"
  | .file =>
    match Document.fileName? data with
    | some name => .ok (.value (.text name))
    | none => expected "a File"

/-- The fields of a document in order. -/
def encodeFields (now : String) (storage : ClassSchema) :
    List (String × Json) → Except Fault EncodedRow
  | [] => .ok ⟨[], []⟩
  | (field, data) :: rest =>
    if data.isNull then encodeFields now storage rest
    else do
      let type ← orFault (.unknownField storage.className field) (storage.fieldType? field)
      let cell ← encodeCell now field type data
      let row ← encodeFields now storage rest
      match cell with
      | .skip => return row
      | .value p => return { row with values := (field, p) :: row.values }
      | .point p => return { row with points := (field, p) :: row.points }

/-- Lower a document to column values. -/
def ofObject (now : String) (schema : ClassSchema) (object : Object) : Except Fault EncodedRow := do
  let expanded := Document.expand object
  Document.checkKeys (.obj expanded)
  encodeFields now schema.storage (Document.foldAuthData expanded)

/-- The insertion of a row into a table.  All column names come first in the parameters, then the
values, then the coordinates of the points. -/
def insertStatement (table : String) (row : EncodedRow) : Statement :=
  let columns := row.values.map (·.1) ++ row.points.map (·.1)
  let firstValue := 2 + columns.length
  let firstPoint := firstValue + row.values.length
  let points := (List.range row.points.length).map fun i =>
    sql ["POINT(", .slot (firstPoint + 2 * i), ", ", .slot (firstPoint + 2 * i + 1), ")"]
  { text :=
      sql ["INSERT INTO ", .slot 1, " (", .join ", " (slotsFrom 2 columns.length), ") VALUES (",
        .join ", " (slotsFrom firstValue row.values.length ++ points), ")"]
    params :=
      .ident table :: columns.map .ident ++ row.values.map (·.2) ++
        row.points.flatMap fun e =>
          [.value (.ofFloat e.2.longitude), .value (.ofFloat e.2.latitude)] }

end EncodedRow

end DocStore
