import DocStore.Query.Basic
import DocStore.Sql.JsonPath
import DocStore.Sql.Statement

/-!
# Conditions on table rows

A query that has been understood against a schema is a `Filter`: clauses that must all hold of a
row.  A clause applies tests to one target, which is a column or a place inside a JSON column, or
groups several filters.

`Filter.whereClause` writes a filter as SQL with its placeholders numbered from one.  The column
of a target is one parameter, shared by all its tests; what the tests compare with follows in
order.  A distance test asks for an order of the rows, and the first text test gives their score.

Every "or" stands inside parentheses, so that conditions can be joined by "and" without more.
-/

namespace DocStore

open Sql

/-- A column, or a place inside a JSON column. -/
structure Target where
  column : String
  path : List String
  deriving DecidableEq, Repr

namespace Target

/-- What a dotted field name refers to; the root `_auth_data_<provider>` is a place inside the
column `authData`. -/
def ofName (name : String) : Target :=
  let (root, path) := Key.split name
  match Key.provider? root with
  | some provider => ⟨"authData", provider :: path⟩
  | none => ⟨root, path⟩

/-- The target is inside a JSON column. -/
def isNested (x : Target) : Bool := !x.path.isEmpty

/-- The parameters of a target: its column, and its path if it has one. -/
def params (x : Target) : List Param :=
  .ident x.column :: if x.isNested then [.text (jsonPath x.path)] else []

/-- The expression of a target whose first parameter is number `n`. -/
def text (x : Target) (n : Nat) : Template :=
  if x.isNested then sql [.slot n, "->>", .slot (n + 1)] else .slot n

end Target

/-- Relations between a target and a scalar. -/
inductive Relation where
  | equal
  | different
  | ordered (comparison : Comparison)
  deriving DecidableEq, Repr

namespace Relation

/-- The operator in SQL. -/
def symbol : Relation → String
  | .equal => "="
  | .different => "<>"
  | .ordered comparison => comparison.symbol

end Relation

/-- A test of a target's value. -/
inductive Test where
  | always
  | isNull
  | isPresent
  | scalar (relation : Relation) (operand : Json)
  /-- The value is one of these scalars. -/
  | among (operands : List Json)
  /-- The value is none of these scalars. -/
  | notAmong (operands : List Json)
  /-- The array holds all of these. -/
  | holds (items : List Json)
  /-- The array does not hold all of these. -/
  | lacks (items : List Json)
  /-- The array holds one of these. -/
  | holdsAny (items : List Json)
  /-- The array holds none of these. -/
  | holdsNone (items : List Json)
  /-- The value is this point, given as well-known text. -/
  | atPoint (wkt : String)
  /-- The value is not this point. -/
  | notAtPoint (wkt : String)
  | regex (pattern : String)
  | text (term : String)
  /-- The value is a point, at most so many meters away. -/
  | near (origin : GeoPoint) (reach : Option Binary64)
  | inBox (corner opposite : GeoPoint)
  | inPolygon (ring : List GeoPoint)
  /-- The test holds, or there is no value. -/
  | orNull (test : Test)
  /-- There is no value, or the test holds. -/
  | nullOr (test : Test)
  /-- There is a value, and the test holds. -/
  | presentAnd (test : Test)
  deriving DecidableEq, Repr

namespace Test

/-- The polygon of a box given by two opposite corners. -/
def boxRing (corner opposite : GeoPoint) : List GeoPoint :=
  [corner, ⟨opposite.latitude, corner.longitude⟩, opposite,
    ⟨corner.latitude, opposite.longitude⟩, corner]

/-- The parameters of a test in order. -/
def params : Test → List Param
  | .always | .isNull | .isPresent => []
  | .scalar _ operand => [.value operand]
  | .among operands | .notAmong operands => operands.map .value
  | .holds items | .lacks items => [.json (.arr items)]
  | .holdsAny items | .holdsNone items => items.map fun v => .json (.arr [v])
  | .atPoint wkt | .notAtPoint wkt => [.text wkt]
  | .regex pattern => [.text pattern]
  | .text term => [.text term]
  | .near origin reach => .text origin.wkt :: (reach.map fun m => .value (.ofFloat m)).toList
  | .inBox corner opposite => [.text (GeoPoint.polygonWkt (boxRing corner opposite))]
  | .inPolygon ring => [.text (GeoPoint.polygonWkt ring)]
  | .orNull test | .nullOr test | .presentAnd test => test.params

/-- Whether an array column holds all items of a parameter. -/
def containment (x : Template) (n : Nat) (expected : String) : Template :=
  sql ["JSON_CONTAINS(", x, ", ", .slot n, ") = ", expected]

/-- One containment for each parameter from number `n` on. -/
def containments (x : Template) (expected : String) (n count : Nat) : List Template :=
  (List.range' n count).map fun i => containment x i expected

/-- The distance between a target and the point of parameter `n`. -/
def distance (x : Template) (n : Nat) : Template :=
  sql ["ST_Distance_Sphere(", x, ", ST_GeomFromText(", .slot n, "))"]

/-- The relevance of a target for the term of parameter `n`. -/
def relevance (x : Template) (n : Nat) : Template :=
  sql ["MATCH (", x, ") AGAINST (", .slot n, ")"]

/-- The condition on the expression `x`; the test's first parameter is number `n`. -/
def condition (x : Template) (n : Nat) : Test → Template
  | .always => "TRUE"
  | .isNull => sql [x, " IS NULL"]
  | .isPresent => sql [x, " IS NOT NULL"]
  | .scalar relation _ => sql [x, " ", relation.symbol, " ", .slot n]
  | .among operands =>
    sql [x, " IN (", .join ", " (slotsFrom n operands.length), ")"]
  | .notAmong operands =>
    sql [x, " NOT IN (", .join ", " (slotsFrom n operands.length), ")"]
  | .holds _ => containment x n "1"
  | .lacks _ => containment x n "0"
  | .holdsAny items =>
    sql ["(", .join " OR " (containments x "1" n items.length), ")"]
  | .holdsNone items =>
    sql ["(", .join " AND " (containments x "0" n items.length), ")"]
  | .atPoint _ => sql ["ST_Equals(", x, ", ST_GeomFromText(", .slot n, "))"]
  | .notAtPoint _ => sql ["NOT ST_Equals(", x, ", ST_GeomFromText(", .slot n, "))"]
  | .regex _ => sql ["REGEXP_LIKE(", x, ", ", .slot n, ", 'c')"]
  | .text _ => relevance x n
  | .near _ none => sql [x, " IS NOT NULL"]
  | .near _ (some _) => sql [distance x n, " <= ", .slot (n + 1)]
  | .inBox _ _ => sql ["MBRCovers(ST_GeomFromText(", .slot n, "), ", x, ")"]
  | .inPolygon _ => sql ["ST_Contains(ST_GeomFromText(", .slot n, "), ", x, ")"]
  | .orNull test => sql ["(", condition x n test, " OR ", x, " IS NULL)"]
  | .nullOr test => sql ["(", x, " IS NULL OR ", condition x n test, ")"]
  | .presentAnd test => sql ["(", x, " IS NOT NULL AND ", condition x n test, ")"]

/-- The order of rows that a test asks for. -/
def sort? (x : Template) (n : Nat) : Test → Option Template
  | .near _ _ => some (sql [distance x n, " ASC"])
  | _ => none

/-- The score that a test gives. -/
def score? (x : Template) (n : Nat) : Test → Option Template
  | .text _ => some (relevance x n)
  | _ => none

/-- Tests with the numbers of their first parameters. -/
def numbered (n : Nat) : List Test → List (Nat × Test)
  | [] => []
  | t :: ts => (n, t) :: numbered (n + t.params.length) ts

end Test

/-- A condition on rows. -/
inductive RowClause where
  | tests (target : Target) (tests : List Test)
  | group (connective : Connective) (filters : List (List RowClause))
  deriving Repr

/-- Conditions that must all hold. -/
abbrev Filter := List RowClause

/-- A condition in SQL, with what it asks of the rows' order. -/
structure WhereClause where
  /-- The condition; empty if there is none. -/
  pattern : Template
  params : List Param
  /-- Order items of distance tests. -/
  sorts : List Template
  /-- The relevance of the first text test. -/
  score : Option Template
  deriving DecidableEq, Repr

namespace WhereClause

/-- No condition. -/
def none : WhereClause := ⟨[], [], [], .none⟩

/-- The condition behind `k` more parameters. -/
def shift (k : Nat) (w : WhereClause) : WhereClause :=
  ⟨w.pattern.shift k, w.params, w.sorts.map (Template.shift k), w.score.map (Template.shift k)⟩

/-- Two conditions with a text between them; the second is numbered behind the first. -/
def beside (separator : String) (a b : WhereClause) : WhereClause :=
  let b := b.shift a.params.length
  ⟨sql [a.pattern, separator, b.pattern], a.params ++ b.params, a.sorts ++ b.sorts,
    a.score <|> b.score⟩

/-- Conditions with a text between them. -/
def join (separator : String) : List WhereClause → WhereClause
  | [] => none
  | [w] => w
  | w :: ws => w.beside separator (join separator ws)

/-- The condition in parentheses. -/
def parenthesized (w : WhereClause) : WhereClause :=
  { w with pattern := sql ["(", w.pattern, ")"] }

/-- The condition as it is used: what is not there holds. -/
def condition (w : WhereClause) : Template := if w.pattern.isEmpty then "TRUE" else w.pattern

/-- The condition, spelled out. -/
def spelled (w : WhereClause) : WhereClause := { w with pattern := w.condition }

/-- Tests of one target, joined by "and". -/
def ofTests (target : Target) (tests : List Test) : WhereClause :=
  let x := target.text 1
  let numbered := Test.numbered (target.params.length + 1) tests
  { pattern := Template.join " AND " (numbered.map fun t => t.2.condition x t.1)
    params := target.params ++ tests.flatMap Test.params
    sorts := numbered.filterMap fun t => t.2.sort? x t.1
    score := numbered.findSome? fun t => t.2.score? x t.1 }

end WhereClause

mutual

/-- A clause as SQL. -/
def RowClause.whereClause : RowClause → WhereClause
  | .tests target applied => .ofTests target applied
  | .group connective filters =>
    (WhereClause.join (" " ++ connective.symbol ++ " ") (groupParts filters)).parenthesized

/-- Each clause of a filter as SQL. -/
def RowClause.clauseParts : List RowClause → List WhereClause
  | [] => []
  | c :: cs => c.whereClause :: RowClause.clauseParts cs

/-- Each filter of a group as SQL. -/
def RowClause.groupParts : List (List RowClause) → List WhereClause
  | [] => []
  | f :: fs => (WhereClause.join " AND " (RowClause.clauseParts f)).spelled ::
      RowClause.groupParts fs

end

/-- A filter as SQL. -/
def Filter.whereClause (f : Filter) : WhereClause :=
  .join " AND " (RowClause.clauseParts f)

end DocStore
