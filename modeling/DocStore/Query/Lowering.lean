import DocStore.Document.Marker
import DocStore.Pattern
import DocStore.Query.Filter
import DocStore.Query.Reader
import DocStore.Schema.Basic

/-!
# Understanding queries against a schema

`Query.filter` turns a query into a filter over the columns of the storage view.  Wrapped values
become what their columns hold: a pointer its identifier, a date its timestamp, a file its name.
A field that the schema does not know is refused, unless the query only asks for its absence.
-/

namespace DocStore

namespace Constraint

/-- The scalar that a column is compared with.  Inside a JSON column truth values are texts. -/
def scalar (name : String) (nested : Bool) (operand : Json) : Except Fault Json :=
  let unsupported : Fault := .unsupportedQuery name operand.compact
  match operand with
  | .bool b => .ok (if nested then .str (if b then "true" else "false") else .bool b)
  | .str _ | .num _ => .ok operand
  | .obj _ =>
    match operand.typeTag? with
    | some "Pointer" => (orFault unsupported (Document.pointerId? operand)).map .str
    | some "Date" => do
      let text ← Document.dateText? name operand
      (orFault unsupported text).map .str
    | some "File" => (orFault unsupported (Document.fileName? operand)).map .str
    | _ => .error unsupported
  | _ => .error unsupported

/-- The text of a wrapped point. -/
def pointText (name : String) (operand : Json) : Except Fault String := do
  let point ← orFault (.unsupportedQuery name operand.compact) (GeoPoint.ofJson? operand)
  point.check
  return point.wkt

/-- Equality with a value. -/
def lowerEquals (name : String) (isArray nested : Bool) (operand : Json) : Except Fault Test :=
  if operand.isNull then .ok .isNull
  else if isArray then
    if operand.isArray then .error (.unsupportedQuery name operand.compact)
    else .ok (.holds [operand])
  else if operand.typeTag? = some "GeoPoint" then (pointText name operand).map .atPoint
  else (scalar name nested operand).map (.scalar .equal)

/-- Difference from a value; a missing value is different. -/
def lowerNotEqual (name : String) (isArray nested : Bool) (operand : Json) : Except Fault Test :=
  if operand.isNull then .ok .isPresent
  else if isArray then .ok (.orNull (.lacks [operand]))
  else if operand.typeTag? = some "GeoPoint" then
    (pointText name operand).map fun wkt => .orNull (.notAtPoint wkt)
  else (scalar name nested operand).map fun v => .orNull (.scalar .different v)

/-- The items of a list, those of inner lists among them. -/
def flatten (operands : List Json) : List Json :=
  operands.flatMap fun v =>
    match v with
    | .arr inner => inner
    | _ => [v]

/-- Membership in a list.  Null members ask for absence and are not compared. -/
def lowerAmong (name : String) (isArray nested : Bool) (operands : List Json) :
    Except Fault Test :=
  let flat := flatten operands
  let items := flat.filter fun v => !v.isNull
  let allowNull := flat.any Json.isNull
  if items.isEmpty then .ok .isNull
  else do
    let test ←
      if isArray then .ok (.holdsAny items) else (items.mapM (scalar name nested)).map .among
    return if allowNull then .nullOr test else test

/-- Absence from a list. -/
def lowerNotAmong (name : String) (isArray nested : Bool) (operands : List Json) :
    Except Fault Test :=
  let flat := flatten operands
  let items := flat.filter fun v => !v.isNull
  let allowNull := flat.any Json.isNull
  if items.isEmpty then .ok (if allowNull then .isPresent else .always)
  else do
    let test ←
      if isArray then .ok (.holdsNone items) else (items.mapM (scalar name nested)).map .notAmong
    return if allowNull then .presentAnd test else .orNull test

/-- The test that a constraint makes on its target. -/
def lower (name : String) (isArray nested : Bool) : Constraint → Except Fault Test
  | .isNull => .ok .isNull
  | .present expected => .ok (if expected then .isPresent else .isNull)
  | .equals operand => lowerEquals name isArray nested operand
  | .notEqual operand => lowerNotEqual name isArray nested operand
  | .compare comparison operand =>
    if operand.isNull then .error (.unsupportedQuery name (comparison.symbol ++ " null"))
    else (scalar name nested operand).map (.scalar (.ordered comparison))
  | .among operands => lowerAmong name isArray nested operands
  | .notAmong operands => lowerNotAmong name isArray nested operands
  | .all operands =>
    if isArray then .ok (.holds operands)
    else .error (.unsupportedQuery name "$all on a non-array field")
  | .regex pattern options => (Pattern.translate pattern options).map .regex
  | .text term _ => .ok (.text term)
  | .near point maxDistance => do
    point.check
    return .near point (maxDistance.map GeoPoint.meters)
  | .inBox corner opposite => .ok (.inBox corner opposite)
  | .inPolygon ring => .ok (.inPolygon ring)

/-- The constraint asks for the absence of a field. -/
def asksAbsence : Constraint → Bool
  | .present false => true
  | _ => false

end Constraint

/-- The clause for the constraints on one field; `none` if it holds of every row. -/
def Clause.lowerField (storage : ClassSchema) (name : String) (constraints : List Constraint) :
    Except Fault (Option RowClause) :=
  let target := Target.ofName name
  match storage.fieldType? target.column with
  | none =>
    if !constraints.isEmpty && constraints.all Constraint.asksAbsence then .ok none
    else .error (.unknownField storage.className name)
  | some type =>
    if constraints.isEmpty then .error (.unsupportedQuery name "empty constraint")
    else do
      let isArray := !target.isNested && type.isArray
      let tests ← constraints.mapM (Constraint.lower name isArray target.isNested)
      return some (.tests target tests)

mutual

/-- The condition of one clause; `none` if it holds of every row. -/
def Clause.lower (storage : ClassSchema) : Clause → Except Fault (Option RowClause)
  | .field name constraints => Clause.lowerField storage name constraints
  | .connect connective queries =>
    (Clause.lowerGroup storage queries).map fun filters => some (.group connective filters)

/-- The conditions of clauses in order. -/
def Clause.lowerAll (storage : ClassSchema) : List Clause → Except Fault Filter
  | [] => .ok []
  | c :: cs => do
    let first ← Clause.lower storage c
    let others ← Clause.lowerAll storage cs
    return first.toList ++ others

/-- The filters of connected queries. -/
def Clause.lowerGroup (storage : ClassSchema) : List (List Clause) → Except Fault (List Filter)
  | [] => .ok []
  | q :: qs => do
    let first ← Clause.lowerAll storage q
    let others ← Clause.lowerGroup storage qs
    return first :: others

end

/-- The filter of a query over the storage view of a schema. -/
def Query.filter (schema : ClassSchema) (q : Query) : Except Fault Filter :=
  Clause.lowerAll schema.storage q

/-- A query as SQL, its placeholders numbered from `start`. -/
def Query.compile (schema : ClassSchema) (q : Query) (start : Nat) : Except Fault WhereClause :=
  (q.filter schema).map fun f => f.whereClause.shift (start - 1)

end DocStore
