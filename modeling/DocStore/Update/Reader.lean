import DocStore.Document.Key
import DocStore.Json.Printer
import DocStore.Schema.Basic
import DocStore.Update.Basic

/-!
# Reading updates

`Update.ofObject` reads an update under a schema.  An entry is a plain value to set, an operator
object with an `__op` entry, or a change below a dotted key.  Provider keys come first, so that
they end up in one operator.
-/

namespace DocStore

namespace Update

/-- The update of a key is not one that its field takes. -/
def unsupported {α : Type} (key : String) (operand : Json) : Except Fault α :=
  .error (.unsupportedUpdate key operand.compact)

/-- The new value of a provider; `null` and a delete operator remove it. -/
def providerValue (operand : Json) : Option Json :=
  if operand.isNull || operand.isDelete then none else some operand

/-- The amount of an increment. -/
def amount (key : String) (operand : Json) : Except Fault Json :=
  match operand.get? "amount" with
  | some (.num n) => .ok (.num n)
  | _ => unsupported key operand

/-- The objects of an array operator. -/
def objects (key : String) (operand : Json) : Except Fault (List Json) :=
  match (operand.get? "objects").bind Json.asArray? with
  | some items => .ok items
  | none => unsupported key operand

/-- The change that one dotted key makes to the patch of its column. -/
def readNested (key : String) (path : List String) (operand : Json) :
    Except Fault (Patch → Patch) :=
  match operand.opTag? with
  | some "Delete" => .ok fun p => { p with deletes := p.deletes ++ [path] }
  | some "Increment" => do
    let n ← amount key operand
    return fun p => { p with increments := p.increments ++ [(path, n)] }
  | some _ => unsupported key operand
  | none => .ok fun p => { p with sets := p.sets ++ [(path, operand)] }

/-- Whether a field takes an operator; a field without a type takes every one. -/
def accepts (operator : String) (type : Option FieldType) : Bool :=
  match operator with
  | "Increment" => type.all (· == .number)
  | "Add" | "AddUnique" | "Remove" => type.all FieldType.isArray
  | _ => true

/-- The operator that an operator object names. -/
def readOperator (key operator : String) (type : Option FieldType) (operand : Json) :
    Except Fault Operator :=
  if !accepts operator type then unsupported key operand
  else
    match operator with
    | "Delete" => .ok .clear
    | "Increment" => (amount key operand).map .increment
    | "Add" => (objects key operand).map .append
    | "AddUnique" => (objects key operand).map .appendUnique
    | "Remove" => (objects key operand).map .remove
    | "AddRelation" | "RemoveRelation" => .ok .relation
    | _ => unsupported key operand

/-- The operator of a key without dots; `none` if the operand replaces a whole object column. -/
def readPlain (key : String) (type : Option FieldType) (operand : Json) :
    Except Fault (Option Operator) :=
  if operand.isNull then .ok (some .clear)
  else if type.any FieldType.isRelation then .ok (some .relation)
  else
    match operand.opTag? with
    | some operator => (readOperator key operator type operand).map some
    | none =>
      if operand.typeTag? = some "Relation" then .ok (some .relation)
      else
        match operand with
        | .obj entries =>
          if key = "authData" then
            .ok (some (.providers (entries.map fun e => (e.1, providerValue e.2))))
          else if operand.typeTag?.isNone && type == some .object then .ok none
          else .ok (some (.set operand))
        | _ => .ok (some (.set operand))

/-- Read one entry of an update. -/
def readEntry (storage : ClassSchema) (u : Update) (entry : String × Json) :
    Except Fault Update :=
  let (key, operand) := entry
  match Key.split key with
  | (_, []) => do
    match ← readPlain key (storage.fieldType? key) operand with
    | none => return alterPatch (fun p => { p with whole := some operand }) key u
    | some (.providers entries) => return addProviders entries u
    | some operator => return u ++ [(key, operator)]
  | (root, path) => do
    if storage.fieldType? root ≠ some .object then unsupported key operand
    let change ← readNested key path operand
    return alterPatch change root u

/-- Read an update under a schema. -/
def ofObject (schema : ClassSchema) (o : Object) : Except Fault Update :=
  let providers :=
    o.filterMap fun e => (Key.provider? e.1).map fun p => (p, providerValue e.2)
  let first : Update := if providers.isEmpty then [] else [("authData", .providers providers)]
  (o.filter fun e => (Key.provider? e.1).isNone).foldlM (readEntry schema.storage) first

end Update

end DocStore
