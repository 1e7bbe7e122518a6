import DocStore.Document.Marker
import DocStore.Update.Change
import DocStore.Update.Reader

/-!
# Understanding updates against a schema

`Update.changes` turns operators into assignments.  A value to set is converted to what its column
holds: a pointer becomes its identifier, a date its timestamp, a file its name, a point a call of
`POINT`, arrays and byte strings JSON documents.
-/

namespace DocStore

namespace Update

/-- The timestamp that a value is set to, if it names one. -/
def dateExpression (field : String) (operand : Json) : Except Fault Expression :=
  (Document.dateText? field operand).map fun text =>
    match text with
    | some t => .value (.str t)
    | none => .null

/-- An identifier or name that a wrapper must hold. -/
def nameExpression (field : String) (operand : Json) : Option String → Except Fault Expression
  | some name => .ok (.value (.str name))
  | none => unsupported field operand

/-- What a wrapper object is set to. -/
def wrapperExpression (field : String) (operand : Json) : Except Fault Expression :=
  match operand.typeTag? with
  | some "Date" => dateExpression field operand
  | some "Pointer" => nameExpression field operand (Document.pointerId? operand)
  | some "File" => nameExpression field operand (Document.fileName? operand)
  | some "GeoPoint" =>
    match GeoPoint.ofJson? operand with
    | some p => .ok (.point p.longitude p.latitude)
    | none => unsupported field operand
  | some "Bytes" => .ok (.json operand)
  | _ => unsupported field operand

/-- What a column is set to by a plain value. -/
def setExpression (field : String) (type : Option FieldType) (operand : Json) :
    Except Fault Expression :=
  match operand with
  | .str _ => if type = some .date then dateExpression field operand else .ok (.value operand)
  | .num _ | .bool _ => .ok (.value operand)
  | .arr _ => if type.any FieldType.isArray then .ok (.json operand) else unsupported field operand
  | .obj _ => wrapperExpression field operand
  | .null => unsupported field operand

/-- The assignments of a patch: removals, increments, sets, and the whole object last. -/
def patchSteps (p : Patch) : List Step :=
  (if p.deletes.isEmpty then [] else [.removeMembers p.deletes]) ++
    (if p.increments.isEmpty then [] else [.addMembers p.increments]) ++
    (if p.sets.isEmpty then [] else [.setMembers p.sets]) ++
    (p.whole.map fun v => Step.put (.json v)).toList

/-- The assignments of an operator. -/
def operatorSteps (storage : ClassSchema) (column : String) : Operator → Except Fault (List Step)
  | .relation => .ok []
  | .clear => .ok [.put .null]
  | .providers entries => .ok [.setProviders entries]
  | .increment amount => .ok [.increment amount]
  | .append items => .ok [.append items]
  | .appendUnique items => .ok (items.map .appendUnique)
  | .remove items => .ok [.remove items]
  | .patch changes => .ok (patchSteps changes)
  | .set operand =>
    (setExpression column (storage.fieldType? column) operand).map fun e => [.put e]

/-- The changes of operators in order; relations change nothing here. -/
def changesIn (storage : ClassSchema) : Update → Except Fault (List Change)
  | [] => .ok []
  | (_, .relation) :: rest => changesIn storage rest
  | (column, operator) :: rest => do
    let steps ← operatorSteps storage column operator
    let others ← changesIn storage rest
    return ⟨column, steps⟩ :: others

/-- The changes that an update makes under a schema. -/
def changes (schema : ClassSchema) (u : Update) : Except Fault (List Change) :=
  changesIn schema.storage u

/-- An update as SQL, its placeholders numbered from `start`. -/
def compile (schema : ClassSchema) (o : Object) (start : Nat) : Except Fault SetClause := do
  let u ← ofObject schema o
  let made ← u.changes schema
  return (SetClause.ofChanges made).shift (start - 1)

end Update

end DocStore
