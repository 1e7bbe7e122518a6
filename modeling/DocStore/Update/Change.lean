import DocStore.Document.GeoPoint
import DocStore.Sql.JsonPath
import DocStore.Sql.Statement
import DocStore.Update.Basic

/-!
# Assignments

A `Change` is a column with the assignments that are made to it, one after the other.  Each
assignment is a `Step`, which may use the column's value as the step before left it.

`SetClause` is the written form: assignments with placeholders numbered from one.  The column is
the first parameter of its change; the parameters of its steps follow.
-/

namespace DocStore

open Sql

/-- The value that a column is set to. -/
inductive Expression where
  | null
  | value (v : Json)
  /-- A JSON document. -/
  | json (v : Json)
  | point (longitude latitude : Binary64)
  deriving DecidableEq, Repr

namespace Expression

/-- The parameters of an expression. -/
def params : Expression → List Param
  | .null => []
  | .value v => [.value v]
  | .json v => [.json v]
  | .point longitude latitude => [.value (.ofFloat longitude), .value (.ofFloat latitude)]

/-- The text of an expression whose first parameter is number `n`. -/
def text (n : Nat) : Expression → Template
  | .null => "NULL"
  | .value _ => .slot n
  | .json _ => sql ["CAST(", .slot n, " AS JSON)"]
  | .point _ _ => sql ["POINT(", .slot n, ", ", .slot (n + 1), ")"]

end Expression

/-- One assignment to a column. -/
inductive Step where
  | put (e : Expression)
  | increment (amount : Json)
  | append (items : List Json)
  /-- Append an item that is not there yet. -/
  | appendUnique (item : Json)
  | remove (items : List Json)
  | removeMembers (paths : List (List String))
  | addMembers (amounts : List (List String × Json))
  | setMembers (values : List (List String × Json))
  | setProviders (entries : List (String × Option Json))
  deriving DecidableEq, Repr

namespace Step

/-- The non-empty strict beginnings of a path, shortest first. -/
def parents (path : List String) : List (List String) :=
  (List.range' 1 (path.length - 1)).map path.take

/-- The objects that must exist above all paths, each once, shortest first. -/
def allParents (paths : List (List String)) : List (List String) :=
  (paths.flatMap parents).eraseDups.mergeSort fun a b => a.length ≤ b.length

/-- A path as a parameter. -/
def pathParam (path : List String) : Param := .text (jsonPath path)

/-- The parameters of one provider: its path, and its value if it has one. -/
def providerParams (e : String × Option Json) : List Param :=
  pathParam [e.1] :: (e.2.map Param.json).toList

/-- The parameters of a step in order. -/
def params : Step → List Param
  | .put e => e.params
  | .increment amount => [.value amount]
  | .append items => items.map .json
  | .appendUnique item => [.json (.arr [item]), .json item]
  | .remove items => [.json (.arr items)]
  | .removeMembers paths => paths.map pathParam
  | .addMembers amounts =>
    (allParents (amounts.map (·.1))).map pathParam ++
      amounts.flatMap fun e => [pathParam e.1, .value e.2]
  | .setMembers values =>
    (allParents (values.map (·.1))).map pathParam ++
      values.flatMap fun e => [pathParam e.1, .json e.2]
  | .setProviders entries => entries.flatMap providerParams

/-- A column's object, or an empty one in its absence. -/
def orObject (c : Template) : Template := sql ["COALESCE(", c, ", JSON_OBJECT())"]

/-- A column's array, or an empty one in its absence. -/
def orArray (c : Template) : Template := sql ["COALESCE(", c, ", JSON_ARRAY())"]

/-- The pairs that create missing objects; their paths are the `count` parameters from `n` on. -/
def parentPairs (c : Template) (n count : Nat) : List Template :=
  (List.range' n count).map fun i =>
    sql [.slot i, ", COALESCE(JSON_EXTRACT(", c, ", ", .slot i, "), JSON_OBJECT())"]

/-- The numbers of the first of two parameters for each of `count` pairs from `n` on. -/
def pairNumbers (n count : Nat) : List Nat := (List.range count).map fun i => n + 2 * i

/-- Members set inside a column. -/
def setText (c : Template) (pairs : List Template) : Template :=
  sql ["JSON_SET(", orObject c, ", ", .join ", " pairs, ")"]

/-- Providers set one after the other, the first innermost. -/
def providersText (inner : Template) (n : Nat) : List (String × Option Json) → Template
  | [] => inner
  | (_, none) :: rest =>
    providersText (sql ["JSON_SET(", orObject inner, ", ", .slot n, ", NULL)"]) (n + 1) rest
  | (_, some _) :: rest =>
    providersText
      (sql ["JSON_SET(", orObject inner, ", ", .slot n, ", CAST(", .slot (n + 1), " AS JSON))"])
      (n + 2) rest

/-- What the column `c` is set to; the step's first parameter is number `n`. -/
def text (c : Template) (n : Nat) : Step → Template
  | .put e => e.text n
  | .increment _ => sql ["COALESCE(", c, ", 0) + ", .slot n]
  | .append items =>
    if items.isEmpty then orArray c
    else
      sql ["JSON_ARRAY_APPEND(", orArray c,
        ((slotsFrom n items.length).map fun s => sql [", '$', CAST(", s, " AS JSON)"]).flatten,
        ")"]
  | .appendUnique _ =>
    sql ["IF(JSON_CONTAINS(", orArray c, ", ", .slot n, ") = 0, JSON_ARRAY_APPEND(", orArray c,
      ", '$', CAST(", .slot (n + 1), " AS JSON)), ", c, ")"]
  | .remove _ =>
    sql ["(SELECT COALESCE(JSON_ARRAYAGG(jt.elem), JSON_ARRAY()) FROM JSON_TABLE(", orArray c,
      ", '$[*]' COLUMNS (elem JSON PATH '$')) AS jt WHERE NOT (jt.elem MEMBER OF (CAST(",
      .slot n, " AS JSON))))"]
  | .removeMembers paths =>
    sql ["JSON_REMOVE(", orObject c, ", ", .join ", " (slotsFrom n paths.length), ")"]
  | .addMembers amounts =>
    let count := (allParents (amounts.map (·.1))).length
    setText c (parentPairs c n count ++
      (pairNumbers (n + count) amounts.length).map fun i =>
        sql [.slot i, ", COALESCE(JSON_EXTRACT(", c, ", ", .slot i, "), 0) + ", .slot (i + 1)])
  | .setMembers values =>
    let count := (allParents (values.map (·.1))).length
    setText c (parentPairs c n count ++
      (pairNumbers (n + count) values.length).map fun i =>
        sql [.slot i, ", CAST(", .slot (i + 1), " AS JSON)"])
  | .setProviders entries => providersText c n entries

/-- The assignments of steps in order; the first parameter of the first is number `n`. -/
def assignments (c : Template) (n : Nat) : List Step → List Template
  | [] => []
  | s :: rest => sql [c, " = ", s.text c n] :: assignments c (n + s.params.length) rest

end Step

/-- A column and the assignments made to it. -/
structure Change where
  column : String
  steps : List Step
  deriving DecidableEq, Repr

/-- Assignments in SQL. -/
structure SetClause where
  assignments : List Template
  params : List Param
  deriving DecidableEq, Repr

namespace SetClause

/-- The assignments behind `k` more parameters. -/
def shift (k : Nat) (s : SetClause) : SetClause :=
  ⟨s.assignments.map (Template.shift k), s.params⟩

/-- The assignments of a change. -/
def ofChange (change : Change) : SetClause :=
  ⟨Step.assignments (.slot 1) 2 change.steps,
    .ident change.column :: change.steps.flatMap Step.params⟩

/-- The assignments of changes in order, each numbered behind the ones before. -/
def ofChanges : List Change → SetClause
  | [] => ⟨[], []⟩
  | change :: rest =>
    let first := ofChange change
    let others := (ofChanges rest).shift first.params.length
    ⟨first.assignments ++ others.assignments, first.params ++ others.params⟩

end SetClause

end DocStore
