import DocStore.Document.GeoPoint

/-!
# Queries

A `Query` is a list of clauses that must all hold.  A clause puts constraints on one field, which
may be a dotted path, or connects several queries by "and" or "or".  The empty query holds of
every document.
-/

namespace DocStore

/-- The four orders between two values. -/
inductive Comparison where
  | greater
  | less
  | atLeast
  | atMost
  deriving DecidableEq, Repr

namespace Comparison

/-- The operator in SQL. -/
def symbol : Comparison → String
  | .greater => ">"
  | .less => "<"
  | .atLeast => ">="
  | .atMost => "<="

/-- The comparison that an operator key of a query names. -/
def ofKey? : String → Option Comparison
  | "$gt" => some .greater
  | "$lt" => some .less
  | "$gte" => some .atLeast
  | "$lte" => some .atMost
  | _ => none

end Comparison

/-- How queries are connected. -/
inductive Connective where
  | and
  | or
  deriving DecidableEq, Repr

namespace Connective

/-- The connective in SQL. -/
def symbol : Connective → String
  | .and => "AND"
  | .or => "OR"

end Connective

/-- A condition on one field. -/
inductive Constraint where
  | isNull
  | equals (operand : Json)
  | notEqual (operand : Json)
  | compare (comparison : Comparison) (operand : Json)
  | among (operands : List Json)
  | notAmong (operands : List Json)
  /-- The array holds all of these. -/
  | all (operands : List Json)
  /-- The field has a value, or has none. -/
  | present (expected : Bool)
  | regex (pattern : String) (options : Option String)
  | text (term : String) (language : Option String)
  /-- Near a point, at most so many radians away. -/
  | near (point : GeoPoint) (maxDistance : Option Binary64)
  | inBox (corner opposite : GeoPoint)
  /-- Inside the polygon with these corners, the last of which is the first. -/
  | inPolygon (ring : List GeoPoint)
  deriving DecidableEq, Repr

/-- A condition on documents. -/
inductive Clause where
  | field (name : String) (constraints : List Constraint)
  | connect (connective : Connective) (queries : List (List Clause))
  deriving Repr

/-- Clauses that must all hold. -/
abbrev Query := List Clause

end DocStore
