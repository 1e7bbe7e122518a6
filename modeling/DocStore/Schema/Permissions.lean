import DocStore.Dict
import DocStore.Json.Basic

/-!
# Class-level permissions

For each of six operations a map from roles, or `*` for everybody, to whether they may do it.
Entries of other names are kept as they are, in order, behind the six.
-/

namespace DocStore

/-- Who may do what with the documents of a class. -/
structure Permissions where
  find : Dict Bool
  get : Dict Bool
  create : Dict Bool
  update : Dict Bool
  delete : Dict Bool
  addField : Dict Bool
  extra : Object
  deriving DecidableEq

namespace Permissions

/-- The operation that everybody may do. -/
def everybody : Dict Bool := Dict.empty.insert "*" true

/-- Every operation is open to everybody. -/
def allOpen : Permissions :=
  ⟨everybody, everybody, everybody, everybody, everybody, everybody, []⟩

/-- The names of the six operations. -/
def operations : List String := ["find", "get", "create", "update", "delete", "addField"]

/-- The JSON form of one operation. -/
def mapToJson (d : Dict Bool) : Json := .obj (d.entries.map fun e => (e.1, .bool e.2))

/-- Read one operation: an object of truth values. -/
def mapOfJson? : Json → Option (Dict Bool)
  | .obj entries =>
    (entries.mapM fun (e : String × Json) => e.2.asBool?.map fun b => (e.1, b)).map Dict.ofList
  | _ => none

/-- The JSON form of permissions. -/
def toJson (p : Permissions) : Json :=
  .obj ([("find", mapToJson p.find), ("get", mapToJson p.get), ("create", mapToJson p.create),
    ("update", mapToJson p.update), ("delete", mapToJson p.delete),
    ("addField", mapToJson p.addField)] ++ p.extra)

/-- One operation of permissions; nobody may do what is not mentioned. -/
def operation? (entries : Object) (name : String) : Option (Dict Bool) :=
  match entries.get? name with
  | none => some Dict.empty
  | some v => mapOfJson? v

/-- Read permissions from an object. -/
def ofJson? : Json → Option Permissions
  | .obj entries => do
    let find ← operation? entries "find"
    let get ← operation? entries "get"
    let create ← operation? entries "create"
    let update ← operation? entries "update"
    let delete ← operation? entries "delete"
    let addField ← operation? entries "addField"
    return { find, get, create, update, delete, addField
             extra := entries.filter fun e => !operations.contains e.1 }
  | _ => none

end Permissions

end DocStore
