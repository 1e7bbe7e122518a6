import DocStore.Store.Config
import DocStore.Store.Documents

/-!
# Operations on classes

Programs that create, change and drop the tables of classes and keep the registry in step.  Class
schemas are given back in the host view.
-/

namespace DocStore

namespace Store

/-- The registry as a detail of events. -/
def registryDetail (registry : String) : String × String := ("registry", registry)

/-- Field names as a detail of events. -/
def fieldsDetail (fields : List String) : String × String := ("fields", Event.namesText fields)

/-! ### Reading the registry -/

/-- The class of a registry row. -/
def classOfRow (row : Row) : Except Fault ClassSchema :=
  match row.string? "className" with
  | none => .error (.internal "registry row without className")
  | some className =>
    (ClassSchema.ofRegistry className ((row.lookup "schema").getD .null)).map ClassSchema.host

/-- A field type from its JSON form. -/
def typeOfJson (v : Json) : Except Fault FieldType :=
  match FieldType.ofJson? v with
  | some type => .ok type
  | none => .error (.json "not a field type")

/-- The field type in the first column of a row, if there is one.  A string holds its text. -/
def typeOfRow (row : Option Row) : Except Fault (Option FieldType) :=
  match row.bind Row.first? with
  | none | some .null => .ok none
  | some (.str text) =>
    match Json.read? text with
    | some v => (typeOfJson v).map some
    | none => .error (.json "not JSON text")
  | some v => (typeOfJson v).map some

/-! ### Tables -/

/-- Create the registry if there is none. -/
def ensureRegistry (registry : String) : Program Unit := do
  Program.report (.debug "ensure_registry_exists" [registryDetail registry])
  Program.perform (.createRegistry registry)

/-- Create the table of a class and the join tables of its relations. -/
def createTable (registry className : String) (schema : ClassSchema) : Program Unit := do
  Program.report (.debug "create_table" [classDetail className])
  ClassSchema.check { schema with className }
  ensureRegistry registry
  (Command.createTables className schema).forM Program.perform

/-- Create the tables of a class and register it. -/
def createClass (registry className : String) (schema : ClassSchema) : Program ClassSchema := do
  Program.report (.debug "create_class" [classDetail className])
  let named := { schema with className }
  createTable registry className named
  let _ ← Program.executeAs .createClass className (.register registry className named.toJson)
  return named.host

/-- Add a field to a class and register it; a field that is registered with the same type is left
as it is. -/
def addField (registry className field : String) (type : FieldType) : Program Unit := do
  Program.report
    (.debug "add_field_if_not_exists" [classDetail className, ("field_name", field)])
  Names.checkField field
  let _ ← Program.executeAs .addField className (.addField className field type)
  let rows ← Program.rows (.selectField registry className field)
  match ← typeOfRow rows.head? with
  | none => Program.perform (.registerField registry className field type)
  | some registered =>
    if registered = type then return
    else Program.fail (.fieldAlreadyExists className field)

/-- Remove fields from the registry, and then drop their columns.  Join tables stay. -/
def deleteFields (registry className : String) (schema : ClassSchema) (fields : List String) :
    Program Unit := do
  Program.report (.debug "delete_fields" [classDetail className, fieldsDetail fields])
  let remaining := fields.foldl (fun d name => d.erase name) schema.fields
  Program.perform (.setFields registry className (ClassSchema.fieldsToJson remaining))
  let columns := fields.filter fun name =>
    (schema.fieldType? name).any fun type => !type.isRelation
  match Command.dropColumns? className columns with
  | some c => Program.perform c
  | none => return

/-- Drop the table of a class and its row in the registry, unless it is a join table; says whether
it was dropped. -/
def deleteClass (registry className : String) : Program Bool := do
  Program.report (.debug "delete_class" [classDetail className])
  if Names.isJoinTable className then return false
  else
    Program.perform (.dropClass registry className)
    return true

/-- Whether there is a table of this name.  A failure counts as a no. -/
def classExists (className : String) : Program Bool := do
  Program.report (.debug "class_exists" [classDetail className])
  match ← (Program.rows (.findTable className)).attempt with
  | .ok rows => return (rows.head?.bind fun row => row.integer? "found").any fun n => 0 < n
  | .error fault =>
    Program.report
      (.warn ("class_exists probe failed: " ++ fault.message) [classDetail className])
    return false

/-! ### Constraints and indexes -/

/-- Require the values of fields to be unique. -/
def ensureUniqueness (className : String) (schema : ClassSchema) (fields : List String) :
    Program Unit := do
  Program.report (.debug "ensure_uniqueness" [classDetail className, fieldsDetail fields])
  match fields.find? fun name => (schema.storage.fieldType? name).isNone with
  | some missing => Program.fail (.unknownField className missing)
  | none =>
    let _ ← Program.executeAs .ensureUniqueness className (.addUnique className fields)
    return

/-- Create a full-text index. -/
def createFullTextIndex (className : String) (fields : List String) : Program Unit := do
  Program.report (.debug "create_full_text_index" [classDetail className, fieldsDetail fields])
  let _ ← Program.executeAs .fullTextIndex className (.addFullText className fields)
  return

/-! ### The registry -/

/-- All registered classes. -/
def allClasses (registry : String) : Program (List ClassSchema) := do
  Program.report (.debug "get_all_classes" [])
  ensureRegistry registry
  let rows ← Program.rows (.selectClasses registry none)
  .done (rows.mapM classOfRow)

/-- The registered class of exactly this name. -/
def getClass (registry className : String) : Program (Option ClassSchema) := do
  Program.report (.debug "get_class" [classDetail className])
  ensureRegistry registry
  let rows ← Program.rows (.selectClasses registry (some className))
  .done (rows.head?.mapM classOfRow)

/-- Register permissions of a class. -/
def setPermissions (registry className : String) (permissions : Permissions) : Program Unit := do
  Program.report (.debug "set_class_level_permissions" [classDetail className])
  ensureRegistry registry
  Program.perform (.setPermissions registry className permissions)

/-- The table of a registered class and the join tables of its relations. -/
def tablesOf (schema : ClassSchema) : List String := schema.className :: schema.joinTables

/-- Drop the tables of all registered classes, the system tables and the registry in one batch. -/
def deleteAllClasses (config : Config) : Program Unit := do
  Program.report (.debug "delete_all_classes" [])
  let registry := config.registry
  match ← Program.queryAs .read registry (.selectClasses registry none) with
  | none => return
  | some rows =>
    let classes ← Program.done (rows.mapM classOfRow)
    let tables := classes.flatMap tablesOf ++ config.systemTables ++ [registry]
    let _ ← Program.executeAs .read registry (.dropTables tables)
    return

/-- Create the tables of one class; a bad class name is passed over. -/
def createBootstrapTable (registry : String) (schema : ClassSchema) : Program Unit := do
  match ← (createTable registry schema.className schema).attempt with
  | .ok _ => return
  | .error (.invalidClassName className) =>
    let fault := Fault.invalidClassName className
    Program.report
      (.warn ("skipping bootstrap class: " ++ fault.message) [classDetail schema.className])
  | .error fault => Program.fail fault

/-- Create the tables that every store has. -/
def bootstrap (registry : String) (schemas : List ClassSchema) : Program Unit := do
  Program.report (.debug "perform_initialization" [("classes", toString schemas.length)])
  schemas.forM (createBootstrapTable registry)

end Store

end DocStore
