import DocStore.Query.Reader
import DocStore.Store.Program
import DocStore.Update.Reader

/-!
# Operations on documents

Programs that create, find, count, update and delete the documents of a class.  The caller gives
the schema of the class with every call.

Everything about the arguments that can be wrong is found out before the first command.
-/

namespace DocStore

namespace Store

/-- The class as a detail of events. -/
def classDetail (className : String) : String × String := ("class_name", className)

/-- Insert a document, and give it back. -/
def createObject (now className : String) (schema : ClassSchema) (object : Object) :
    Program Object := do
  Program.report (.debug "create_object" [classDetail className])
  let row ← EncodedRow.ofObject now schema object
  let _ ← Program.executeAs .createObject className (.insert className row)
  return object

/-- The documents that a query finds; none if there is no table. -/
def find (className : String) (schema : ClassSchema) (query : Object) (options : FindOptions) :
    Program (List Object) := do
  Program.report
    (.debug "find" [classDetail className, ("skip", Event.numberText options.skip),
      ("limit", Event.numberText options.limit)])
  let q ← Query.ofEntries query
  let c ← q.selectCommand className schema options
  let rows ← Program.queryAs .read className c
  return (rows.getD []).map (Row.decode schema)

/-- How many documents a query finds; none if there is no table. -/
def count (className : String) (schema : ClassSchema) (query : Object) : Program Nat := do
  Program.report (.debug "count" [classDetail className])
  let q ← Query.ofEntries query
  let c ← q.countCommand className schema
  let rows ← Program.queryAs .read className c
  return ((((rows.getD []).head?).bind fun row => row.integer? "count").getD 0).toNat

/-- Update all documents that a query finds, and read as many again as were affected. -/
def updateObjects (className : String) (schema : ClassSchema) (query update : Object) :
    Program (List Object) := do
  Program.report (.debug "update_objects_by_query" [classDetail className])
  let u ← Update.ofObject schema update
  if u.isIdle then find className schema query .none
  else
    let q ← Query.ofEntries query
    let c ← q.updateCommand className schema u
    let affected ← Program.executeAs .updateObjects className c
    match affected.getD 0 with
    | 0 => return []
    | n + 1 => find className schema query { FindOptions.none with limit := some (n + 1) }

/-- Update all documents that a query finds, and give the first of them. -/
def findOneAndUpdate (className : String) (schema : ClassSchema) (query update : Object) :
    Program (Option Object) := do
  Program.report (.debug "find_one_and_update" [classDetail className])
  let updated ← updateObjects className schema query update
  return updated.head?

/-- The value that an operand of an update has in a new document. -/
def initialValue? (operand : Json) : Option Json :=
  match operand.opTag? with
  | none => some operand
  | some "Increment" => operand.get? "amount"
  | some "Add" | some "AddUnique" => operand.get? "objects"
  | some _ => none

/-- The document that a query and an update describe together. -/
def initialObject (query update : Object) : Object :=
  update.foldl (fun o e =>
    match initialValue? e.2 with
    | some v => o.insert e.1 v
    | none => o) query

/-- Insert the document that a query and an update describe; if it meets a unique value, update
what the query finds instead. -/
def upsertObject (now className : String) (schema : ClassSchema) (query update : Object) :
    Program Unit := do
  Program.report (.debug "upsert_one_object" [classDetail className])
  let created ← (createObject now className schema (initialObject query update)).attempt
  match created with
  | .ok _ => return
  | .error .duplicateValue =>
    let _ ← findOneAndUpdate className schema query update
    return
  | .error fault => Program.fail fault

/-- Delete all documents that a query finds, and count them; there must be one. -/
def deleteObjects (className : String) (schema : ClassSchema) (query : Object) : Program Nat := do
  Program.report (.debug "delete_objects_by_query" [classDetail className])
  let q ← Query.ofEntries query
  let c ← q.deleteCommand className schema
  let affected ← Program.executeAs .deleteObjects className c
  match affected.getD 0 with
  | 0 => Program.fail .objectNotFound
  | n + 1 => return n + 1

/-- Close the session. -/
def shutdown : Program Unit := do
  Program.report (.debug "handle_shutdown" [])
  .close .done

end Store

end DocStore
