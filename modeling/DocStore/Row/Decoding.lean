import DocStore.Document.GeoPoint
import DocStore.Document.Marker
import DocStore.Schema.Basic

/-!
# Rows as documents

`Row.decode` rebuilds a document from a result row.  Columns without a value are dropped, columns
that the schema does not know stay as they are, and every relation field of the schema becomes a
wrapper that names its class.
-/

namespace DocStore

/-- A row of a result, columns in the order in which they were selected. -/
abbrev Row := Object

namespace Row

/-- The text in a column. -/
def string? (row : Row) (column : String) : Option String :=
  (row.lookup column).bind Json.asString?

/-- The integer in a column. -/
def integer? (row : Row) (column : String) : Option Int :=
  (row.lookup column).bind Json.asSigned?

/-- The value of the first column, for results of one column. -/
def first? (row : Row) : Option Json := row.head?.map (·.2)

/-- A date column.  The two dates that every document has are bare strings. -/
def decodeDate (column : String) (raw : Json) : Json :=
  match raw.asString?.bind Timestamp.read? with
  | some t =>
    if column = "createdAt" ∨ column = "updatedAt" then .str t.isoText
    else Document.dateWrapper t
  | none => raw

/-- A point column: an object with the coordinates `x` and `y`. -/
def decodePoint (raw : Json) : Json :=
  match (raw.get? "x").bind Json.asFloat?, (raw.get? "y").bind Json.asFloat? with
  | some x, some y => (GeoPoint.mk y x).toJson
  | _, _ => raw

/-- A truth value, stored as a number or a text. -/
def decodeBoolean : Json → Json
  | .num n => .bool (n.toSigned? == some 1)
  | .str s => .bool (s == "1" || s == "true")
  | raw => raw

/-- The value that a column of a type stands for; a relation has none. -/
def decodeCell (column : String) (type : FieldType) (raw : Json) : Option Json :=
  match type with
  | .relation _ => none
  | .pointer target =>
    match raw with
    | .str id =>
      some (.obj [("__type", .str "Pointer"), ("className", .str target), ("objectId", .str id)])
    | _ => some raw
  | .geoPoint => some (decodePoint raw)
  | .file =>
    match raw with
    | .str name => some (.obj [("__type", .str "File"), ("name", .str name)])
    | _ => some raw
  | .boolean => some (decodeBoolean raw)
  | .date => some (decodeDate column raw)
  | .object | .array | .arrayOf _ | .bytes =>
    match raw with
    | .str text => some ((Json.read? text).getD raw)
    | _ => some raw
  | .string | .number => some raw

/-- Add one column to a document. -/
def decodeColumn (storage : ClassSchema) (document : Object) (e : String × Json) : Object :=
  if e.2.isNull then document
  else
    match storage.fieldType? e.1 with
    | none => document.insert e.1 e.2
    | some type =>
      match decodeCell e.1 type e.2 with
      | some v => document.insert e.1 v
      | none => document

/-- Add the wrapper of a relation field to a document. -/
def decodeRelation (document : Object) (e : String × FieldType) : Object :=
  match e.2 with
  | .relation target =>
    document.insert e.1 (.obj [("__type", .str "Relation"), ("className", .str target)])
  | _ => document

/-- Rebuild a document from a row. -/
def decode (schema : ClassSchema) (row : Row) : Object :=
  let storage := schema.storage
  storage.fields.entries.foldl decodeRelation (row.foldl (decodeColumn storage) [])

end Row

end DocStore
