import DocStore.Query.Lowering

/-!
# Selections

A `Selection` says which rows of a table are read, in which columns, in which order and how many.
`Query.select` makes one from a query and the wishes of a caller (`FindOptions`).

Distance tests order the rows themselves and replace the order that the caller wishes.  Columns
that the schema does not know are left out of the projection; a projection without any column
reads all of them.
-/

namespace DocStore

open Sql

/-- A direction of an order. -/
inductive Direction where
  | ascending
  | descending
  deriving DecidableEq, Repr

namespace Direction

/-- The keyword in SQL. -/
def keyword : Direction → String
  | .ascending => "ASC"
  | .descending => "DESC"

/-- Negative numbers stand for descending order. -/
def ofInt (n : Int) : Direction := if n < 0 then .descending else .ascending

end Direction

/-- What a caller wishes of the rows that it finds. -/
structure FindOptions where
  skip : Option Nat
  limit : Option Nat
  /-- Keys to order by, the most important first; `$score` is the relevance. -/
  sort : List (String × Direction)
  /-- Fields to read; `$score` adds the relevance as column `score`. -/
  keys : List String
  deriving DecidableEq, Repr

namespace FindOptions

/-- No wishes. -/
def none : FindOptions := ⟨.none, .none, [], []⟩

end FindOptions

/-- The key that stands for the relevance of a row. -/
def scoreKey : String := "$score"

/-- One item of an order. -/
inductive OrderItem where
  /-- By a column, or a place inside one. -/
  | target (place : Target) (direction : Direction)
  /-- By relevance, the highest first. -/
  | score
  deriving DecidableEq, Repr

namespace OrderItem

/-- The parameters of an item. -/
def params : OrderItem → List Param
  | .target place _ => place.params
  | .score => []

/-- The text of an item whose first parameter is number `n`. -/
def text (score : Template) (n : Nat) : OrderItem → Template
  | .target place direction => sql [place.text n, " ", direction.keyword]
  | .score => sql [score, " DESC"]

/-- The texts of items in order, each numbered behind the ones before. -/
def texts (score : Template) (n : Nat) : List OrderItem → List Template
  | [] => []
  | item :: rest => item.text score n :: texts score (n + item.params.length) rest

end OrderItem

/-- Rows to be read. -/
structure Selection where
  filter : Filter
  /-- The columns to read; all of them if there are none. -/
  columns : List String
  /-- The relevance is read as well, if the filter gives one. -/
  score : Bool
  /-- The order of the rows, unless the filter has one of its own. -/
  order : List OrderItem
  limit : Option Nat
  skip : Option Nat
  deriving Repr

namespace Selection

/-- Templates after a keyword; nothing if there are none. -/
def listAfter (keyword : String) : List Template → Template
  | [] => []
  | items => sql [keyword, .join ", " items]

/-- The greatest row count, which stands for no limit where a count must be given. -/
def unlimited : Nat := Nat.pow 2 64 - 1

/-- A row count as a parameter. -/
def countParam (n : Nat) : Param := .value (.ofInt n)

/-- The row counts behind `LIMIT` and `OFFSET`: rows can only be skipped where a limit is given. -/
def counts (s : Selection) : List (String × Nat) :=
  match s.limit, s.skip with
  | some limit, some skip => [(" LIMIT ", limit), (" OFFSET ", skip)]
  | some limit, none => [(" LIMIT ", limit)]
  | none, some skip => [(" LIMIT ", unlimited), (" OFFSET ", skip)]
  | none, none => []

/-- The parts for row counts; the first parameter is number `n`. -/
def countParts (n : Nat) : List (String × Nat) → Template
  | [] => []
  | (keyword, _) :: rest => sql [keyword, .slot n, countParts (n + 1) rest]

/-- The relevance as a column of the result; its name is parameter `n`. -/
def scoreColumn (score : Option Template) (n : Nat) : List Template :=
  (score.map fun relevance => sql [relevance, " AS ", .slot n]).toList

/-- The statement that reads the rows of a table.  The table is the first parameter; then come
those of the condition, the columns, the order and the row counts. -/
def statement (table : String) (s : Selection) : Statement :=
  let w := s.filter.whereClause.shift 1
  let score := if s.score then w.score else none
  let order := if w.sorts.isEmpty then s.order else []
  let firstColumn := 2 + w.params.length
  let scoreNumber := firstColumn + s.columns.length
  let firstOrder := scoreNumber + score.toList.length
  let orderParams := order.flatMap OrderItem.params
  let columns := slotsFrom firstColumn s.columns.length ++ scoreColumn score scoreNumber
  { text :=
      sql ["SELECT ", if columns.isEmpty then "*" else .join ", " columns, " FROM ", .slot 1,
        " WHERE ", w.condition,
        listAfter " ORDER BY "
          (w.sorts ++ OrderItem.texts (w.score.getD []) firstOrder order),
        countParts (firstOrder + orderParams.length) s.counts]
    params :=
      .ident table :: w.params ++ s.columns.map .ident ++
        score.toList.map (fun _ => .ident "score") ++ orderParams ++
        s.counts.map fun e => countParam e.2 }

end Selection

namespace Query

/-- The columns that hold the given keys: those the schema knows, each once, in the order in which
they are first asked for. -/
def projectedColumns (storage : ClassSchema) (keys : List String) : List String :=
  let asked := keys.filter fun key => !key.isEmpty && key != scoreKey
  ((asked.map fun key => (Key.split key).1).filter
    fun root => (storage.fieldType? root).isSome).eraseDups

/-- One item of an order; the relevance is only there if the filter gives one. -/
def orderItem (hasScore : Bool) (e : String × Direction) : Except Fault OrderItem :=
  if e.1 = scoreKey then
    if hasScore then .ok .score
    else .error QueryProblem.scoreWithoutText.fault
  else
    let (root, path) := Key.split e.1
    .ok (.target ⟨root, path⟩ e.2)

/-- The rows that a query finds under the given wishes. -/
def select (schema : ClassSchema) (q : Query) (options : FindOptions) : Except Fault Selection := do
  let filter ← q.filter schema
  let w := filter.whereClause
  let order ←
    if w.sorts.isEmpty then options.sort.mapM (orderItem w.score.isSome) else .ok []
  return {
    filter
    columns := projectedColumns schema.storage options.keys
    score := options.keys.contains scoreKey
    order
    limit := options.limit
    skip := options.skip }

end Query

end DocStore
