import DocStore.Json.Printer
import DocStore.Query.Basic

/-!
# Reading queries

`Query.ofJson` reads a query from its JSON form.  Every operator key of a field gives one
constraint, except that `$options` belongs to the `$regex` and `$maxDistance` to the
`$nearSphere` beside it.
-/

namespace DocStore

/-- What is wrong with a query. -/
inductive QueryProblem where
  | notAnObject (v : Json)
  | notAList (operator : String)
  | emptyList (operator : String)
  | regexNotString (field : String)
  | searchNotObject
  | termNotString
  | languageNotString
  | caseSensitive
  | caseSensitiveNotBoolean
  | diacriticInsensitive
  | diacriticSensitiveNotBoolean
  | nearNotPoint
  | distanceNotNumber
  | boxNotPair
  | boxCorner
  | polygonTooSmall
  | polygonVertex
  | scoreWithoutText
  deriving DecidableEq, Repr

namespace QueryProblem

/-- The text of a problem. -/
def detail : QueryProblem → String
  | .notAnObject v => "query must be an object, got " ++ v.compact
  | .notAList operator => operator ++ " must be an array"
  | .emptyList operator => operator ++ " must not be empty"
  | .regexNotString field => "bad $regex on " ++ field ++ ", should be string"
  | .searchNotObject => "bad $text: $search, should be object"
  | .termNotString => "bad $text: $term, should be string"
  | .languageNotString => "bad $text: $language, should be string"
  | .caseSensitive =>
    "bad $text: $caseSensitive not supported, please use $regex or create a separate lower case column."
  | .caseSensitiveNotBoolean => "bad $text: $caseSensitive, should be boolean"
  | .diacriticInsensitive => "bad $text: $diacriticSensitive - false not supported"
  | .diacriticSensitiveNotBoolean => "bad $text: $diacriticSensitive, should be boolean"
  | .nearNotPoint => "bad $nearSphere value, should be a GeoPoint"
  | .distanceNotNumber => "bad $maxDistance value, should be a number"
  | .boxNotPair => "bad $within value; $box should contain 2 GeoPoints"
  | .boxCorner => "bad $box value"
  | .polygonTooSmall => "bad $geoWithin value; $polygon should contain at least 3 GeoPoints"
  | .polygonVertex => "bad $geoWithin value"
  | .scoreWithoutText => "sorting by $score requires $text"

/-- The fault that a problem gives. -/
def fault (p : QueryProblem) : Fault := .invalidQuery p.detail

end QueryProblem

namespace Constraint

/-- The items of a list operator. -/
def readList (field key : String) (operand : Json) : Except Fault (List Json) :=
  orFault (.unsupportedQuery field (key ++ " expects an array, got " ++ operand.compact))
    operand.asArray?

/-- An option of a text search that is a truth value: the one that is supported is `expected`. -/
def checkFlag (expected : Bool) (unsupported malformed : QueryProblem) :
    Option Json → Except Fault Unit
  | none => .ok ()
  | some (.bool b) => if b = expected then .ok () else .error unsupported.fault
  | some _ => .error malformed.fault

/-- The operand of `$text`. -/
def readText (operand : Json) : Except Fault Constraint := do
  let search ← orFault QueryProblem.searchNotObject.fault
    ((operand.get? "$search").bind Json.asObject?)
  let term ←
    match search.get? "$term" with
    | some (.str term) =>
      if term.isEmpty then .error QueryProblem.termNotString.fault else .ok term
    | _ => .error QueryProblem.termNotString.fault
  let language ←
    match search.get? "$language" with
    | none => .ok none
    | some (.str language) => .ok (some language)
    | some _ => .error QueryProblem.languageNotString.fault
  checkFlag false .caseSensitive .caseSensitiveNotBoolean (search.get? "$caseSensitive")
  checkFlag true .diacriticInsensitive .diacriticSensitiveNotBoolean
    (search.get? "$diacriticSensitive")
  return .text term language

/-- A point on the globe. -/
def readCorner (v : Json) : Except Fault GeoPoint := do
  let point ← orFault QueryProblem.boxCorner.fault (GeoPoint.ofJson? v)
  point.check
  return point

/-- The operand of `$within`. -/
def readBox (operand : Json) : Except Fault Constraint :=
  match (operand.get? "$box").bind Json.asArray? with
  | some [first, second] => do
    let corner ← readCorner first
    let opposite ← readCorner second
    return .inBox corner opposite
  | _ => .error QueryProblem.boxNotPair.fault

/-- A corner of a polygon, which has to be a wrapped point. -/
def readVertex (v : Json) : Except Fault GeoPoint := do
  if v.typeTag? ≠ some "GeoPoint" then .error QueryProblem.polygonVertex.fault
  let point ← orFault QueryProblem.polygonVertex.fault (GeoPoint.ofJson? v)
  point.check
  return point

/-- A ring: the first point is repeated at the end unless it stands there already. -/
def closeRing (points : List GeoPoint) : List GeoPoint :=
  match points.head?, points.getLast? with
  | some first, some last => if first.same last then points else points ++ [first]
  | _, _ => points

/-- The operand of `$geoWithin`. -/
def readPolygon (operand : Json) : Except Fault Constraint :=
  match (operand.get? "$polygon").bind Json.asArray? with
  | some vertices =>
    if vertices.length < 3 then .error QueryProblem.polygonTooSmall.fault
    else do
      let points ← vertices.mapM readVertex
      return .inPolygon (closeRing points)
  | none => .error QueryProblem.polygonTooSmall.fault

/-- The operand of `$nearSphere`, with the distance beside it. -/
def readNear (operand : Json) (distance : Option Json) : Except Fault Constraint := do
  let point ← orFault QueryProblem.nearNotPoint.fault (GeoPoint.ofJson? operand)
  let maxDistance ←
    match distance with
    | none | some .null => .ok none
    | some v => (orFault QueryProblem.distanceNotNumber.fault v.asFloat?).map some
  return .near point maxDistance

/-- The constraint of one operator key; `none` for a key that belongs to another. -/
def readOperator (field : String) (entries : Object) (key : String) (operand : Json) :
    Except Fault (Option Constraint) :=
  match Comparison.ofKey? key with
  | some comparison => .ok (some (.compare comparison operand))
  | none =>
    match key with
    | "$eq" => .ok (some (if operand.isNull then .isNull else .equals operand))
    | "$ne" => .ok (some (.notEqual operand))
    | "$in" => (readList field key operand).map fun vs => some (.among vs)
    | "$nin" => (readList field key operand).map fun vs => some (.notAmong vs)
    | "$all" => (readList field key operand).map fun vs => some (.all vs)
    | "$exists" =>
      match operand with
      | .bool b => .ok (some (.present b))
      | _ => .error (.unsupportedQuery field ("$exists: " ++ operand.compact))
    | "$regex" =>
      match operand with
      | .str pattern =>
        .ok (some (.regex pattern ((entries.get? "$options").bind Json.asString?)))
      | _ => .error (QueryProblem.regexNotString field).fault
    | "$text" => (readText operand).map some
    | "$nearSphere" => (readNear operand (entries.get? "$maxDistance")).map some
    | "$within" => (readBox operand).map some
    | "$geoWithin" => (readPolygon operand).map some
    | _ =>
      if key = "$options" ∧ entries.contains "$regex" then .ok none
      else if key = "$maxDistance" ∧ entries.contains "$nearSphere" then .ok none
      else .error (.unsupportedQuery field (key ++ ": " ++ operand.compact))

/-- The constraints of the given operator keys in order. -/
def readOperators (field : String) (entries : Object) :
    List (String × Json) → Except Fault (List Constraint)
  | [] => .ok []
  | (key, operand) :: rest => do
    let first ← readOperator field entries key operand
    let others ← readOperators field entries rest
    return first.toList ++ others

/-- The constraints that a field's value in a query stands for.  A plain or wrapped value asks for
equality. -/
def readField (field : String) (v : Json) : Except Fault (List Constraint) :=
  match v with
  | .null => .ok [.isNull]
  | .str _ | .num _ | .bool _ => .ok [.equals v]
  | .arr _ => .error (.unsupportedQuery field v.compact)
  | .obj entries =>
    if v.typeTag?.isSome then .ok [.equals v] else readOperators field entries entries

end Constraint

namespace Query

mutual

/-- Read a query. -/
def ofJson : Json → Except Fault Query
  | .obj entries => ofEntries entries
  | .null => .ok []
  | v => .error (QueryProblem.notAnObject v).fault

/-- Read the clauses of a query in order. -/
def ofEntries : List (String × Json) → Except Fault Query
  | [] => .ok []
  | (name, v) :: rest => do
    let clause ←
      if name = "$or" then connected .or name v
      else if name = "$and" then connected .and name v
      else if name.toList.head? = some '$' then .error (.unsupportedQuery name v.compact)
      else (Constraint.readField name v).map fun constraints => .field name constraints
    let clauses ← ofEntries rest
    return clause :: clauses

/-- Read queries that are connected. -/
def connected (connective : Connective) (name : String) : Json → Except Fault Clause
  | .arr items =>
    if items.isEmpty then .error (QueryProblem.emptyList name).fault
    else do
      let queries ← ofItems items
      return .connect connective queries
  | _ => .error (QueryProblem.notAList name).fault

/-- Read a list of queries. -/
def ofItems : List Json → Except Fault (List Query)
  | [] => .ok []
  | v :: rest => do
    let first ← ofJson v
    let others ← ofItems rest
    return first :: others

end

end Query

end DocStore
