import DocStore.Json.Reader
import DocStore.Schema.FieldType
import DocStore.Schema.Names
import DocStore.Schema.Permissions

/-!
# Class schemas

A `ClassSchema` declares the fields of a class.  It is looked at in two ways:

* the *storage view* adds the columns that every table has, and for the class `_User` those of
  authentication; queries, updates and rows are understood in this view;
* the *host view* hides these columns and fills in permissions.

Both views, and the JSON form that the registry keeps, are defined here.
-/

namespace DocStore

/-- The schema of one class. -/
structure ClassSchema where
  className : String
  fields : Dict FieldType
  permissions : Option Permissions
  deriving DecidableEq

namespace ClassSchema

/-- A schema without fields. -/
def named (className : String) : ClassSchema := ⟨className, Dict.empty, none⟩

/-- Declare a field. -/
def field (s : ClassSchema) (name : String) (type : FieldType) : ClassSchema :=
  { s with fields := s.fields.insert name type }

/-- The fields that every class has. -/
def withDefaultFields (className : String) : ClassSchema :=
  (((named className).field "objectId" .string).field "createdAt" .date).field "updatedAt" .date

/-- The type of a field. -/
def fieldType? (s : ClassSchema) (name : String) : Option FieldType := s.fields.get? name

/-- The relation fields in order. -/
def relationFields (s : ClassSchema) : List String :=
  (s.fields.entries.filter fun e => e.2.isRelation).map (·.1)

/-- The join tables of the relation fields. -/
def joinTables (s : ClassSchema) : List String :=
  s.relationFields.map (Names.joinTable s.className)

/-- Refuse a schema with a bad class or field name. -/
def check (s : ClassSchema) : Except Fault Unit := do
  Names.checkClass s.className
  s.fields.keys.forM Names.checkField

/-! ### Views -/

/-- The columns that say who may read and write a document. -/
def permissionFields : List String := ["_rperm", "_wperm"]

/-- The authentication columns of `_User`. -/
def userInternalFields : List (String × FieldType) :=
  [("_email_verify_token_expires_at", .date), ("_email_verify_token", .string),
    ("_account_lockout_expires_at", .date), ("_failed_login_count", .number),
    ("_perishable_token", .string), ("_perishable_token_expires_at", .date),
    ("_password_changed_at", .date), ("_password_history", .array)]

/-- The fields that the storage view adds to `_User` where they are not declared. -/
def userFields : List (String × FieldType) :=
  [("_hashed_password", .string), ("authData", .object)] ++ userInternalFields

/-- The storage view. -/
def storage (s : ClassSchema) : ClassSchema :=
  let withPermissions :=
    permissionFields.foldl (fun d name => d.insert name (.arrayOf .string)) s.fields
  { s with
    fields :=
      if s.className = "_User" then
        userFields.foldl (fun d e => d.insertIfNew e.1 e.2) withPermissions
      else withPermissions }

/-- The host view. -/
def host (s : ClassSchema) : ClassSchema :=
  let hidden :=
    "_hashed_password" :: permissionFields ++
      (if s.className = "_User" then userInternalFields.map (·.1) else [])
  { s with
    fields := hidden.foldl (fun d name => d.erase name) s.fields
    permissions := some (s.permissions.getD Permissions.allOpen) }

/-! ### JSON form -/

/-- The JSON form of a schema's fields. -/
def fieldsToJson (fields : Dict FieldType) : Json :=
  .obj (fields.entries.map fun e => (e.1, e.2.toJson))

/-- Read fields from an object of types. -/
def fieldsOfJson? : Json → Option (Dict FieldType)
  | .obj entries =>
    (entries.mapM fun (e : String × Json) =>
      (FieldType.ofJson? e.2).map fun type => (e.1, type)).map Dict.ofList
  | _ => none

/-- The JSON form of a schema; absent permissions are left out. -/
def toJson (s : ClassSchema) : Json :=
  .obj ([("className", .str s.className), ("fields", fieldsToJson s.fields)] ++
    match s.permissions with
    | none => []
    | some p => [("classLevelPermissions", p.toJson)])

/-- Read optional permissions; `null` means that there are none. -/
def permissionsOfJson? : Json → Option (Option Permissions)
  | .null => some none
  | v => (Permissions.ofJson? v).map some

/-- A schema from its parts; only the class name has to be there. -/
def ofParts? (className fields permissions : Option Json) : Option ClassSchema := do
  let className ← className.bind Json.asString?
  let fields ← (fields.map fieldsOfJson?).getD (some Dict.empty)
  let permissions ← (permissions.map permissionsOfJson?).getD (some none)
  return { className, fields, permissions }

/-- Read a schema from an object, or from the array of its parts in order. -/
def ofJson? : Json → Option ClassSchema
  | .obj o => ofParts? (o.lookup "className") (o.lookup "fields") (o.lookup "classLevelPermissions")
  | .arr parts =>
    if parts.length ≤ 3 then ofParts? parts[0]? parts[1]? parts[2]? else none
  | _ => none

/-- Read a schema. -/
def ofJson (v : Json) : Except Fault ClassSchema :=
  match ofJson? v with
  | some s => .ok s
  | none => .error (.json "not a class schema")

/-- Read the schema column of a registry row: an object, or a string that holds its text.  The
row's class name counts, whatever name the object holds. -/
def ofRegistry (className : String) (stored : Json) : Except Fault ClassSchema := do
  let object : Object ←
    match stored with
    | .obj o => .ok o
    | .str text =>
      match Json.read? text with
      | some (.obj o) => .ok o
      | some _ => .ok []
      | none => .error (.json "not JSON text")
    | _ => .ok []
  ofJson (.obj (object.insert "className" (.str className)))

end ClassSchema

end DocStore
