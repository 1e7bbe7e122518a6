import DocStore.Fault
import DocStore.Sql.Quoting
import DocStore.Sql.Template

/-!
# Statements

A `Statement` is a template together with the parameters its placeholders refer to.  Rendering
replaces every placeholder by the text of its parameter, which is quoted according to its kind,
so that no value is ever read as SQL.

`Statement.batch` joins statements into one, each followed by a semicolon; `ParamList` collects
parameters and numbers them from a starting index.
-/

namespace DocStore

namespace Sql

/-- A parameter of a statement. -/
inductive Param where
  /-- The name of a table, column or constraint. -/
  | ident (name : String)
  /-- A literal; arrays and objects become their JSON text. -/
  | value (v : Json)
  /-- The JSON text of a value, of a string as well. -/
  | json (v : Json)
  /-- SQL text that is taken over as it stands. -/
  | raw (fragment : String)
  deriving DecidableEq, Repr

namespace Param

/-- A string literal. -/
def text (s : String) : Param := .value (.str s)

/-- What a placeholder is replaced by. -/
def render : Param → String
  | .ident name => quoteName name
  | .value v => literal v
  | .json v => quoteString v.compact
  | .raw fragment => fragment

end Param

/-- SQL text with the parameters of its placeholders. -/
structure Statement where
  text : Template
  params : List Param
  deriving DecidableEq, Repr

namespace Statement

/-- The text of one piece; `whole` is the text that it belongs to. -/
def renderPiece (params : List Param) (whole : String) : Piece → Except Fault String
  | .text s => .ok s
  | .slot n =>
    match params[n - 1]? with
    | some p => .ok p.render
    | none =>
      .error (.internal ("Index $" ++ toString n ++ " exceeds values length: " ++
        toString params.length))
  | .wide _ => .error (.internal ("bad placeholder in " ++ whole))

/-- The text of pieces in order; the first that fails decides. -/
def renderPieces (params : List Param) (whole : String) : Template → Except Fault String
  | [] => .ok ""
  | p :: ps => do
    let first ← renderPiece params whole p
    let rest ← renderPieces params whole ps
    return first ++ rest

/-- The SQL text of a statement. -/
def render (s : Statement) : Except Fault String := renderPieces s.params s.text.print s.text

/-- The parts of a batch, each with a semicolon, behind `k` parameters. -/
def batchFrom (k : Nat) : List Statement → Statement
  | [] => ⟨[], []⟩
  | s :: rest =>
    let tail := batchFrom (k + s.params.length) rest
    ⟨s.text.shift k ++ .text ";" :: tail.text, s.params ++ tail.params⟩

/-- One statement that holds all the given ones, each followed by a semicolon. -/
def batch (statements : List Statement) : Statement := batchFrom 0 statements

end Statement

/-- Parameters under construction, numbered from `start`. -/
structure ParamList where
  start : Nat
  items : List Param
  deriving DecidableEq, Repr

namespace ParamList

/-- No parameters yet; numbers begin at one. -/
def startingAt (start : Nat) : ParamList := ⟨max start 1, []⟩

/-- The number of the next parameter. -/
def next (ps : ParamList) : Nat := ps.start + ps.items.length

/-- Append parameters. -/
def extend (ps : ParamList) (more : List Param) : ParamList := { ps with items := ps.items ++ more }

/-- Append one parameter and give its placeholder. -/
def push (ps : ParamList) (p : Param) : Template × ParamList := (.slot ps.next, ps.extend [p])

end ParamList

/-- The placeholders of `count` parameters from number `first` on. -/
def slotsFrom (first count : Nat) : List Template :=
  (List.range' first count).map Template.slot

end Sql

end DocStore
