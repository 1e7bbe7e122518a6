/-!
# Paths into JSON columns

A path starts with `$`; every member name follows in double quotes behind a point, with quotes
and backslashes inside it escaped.
-/

namespace DocStore

namespace Sql

/-- One character of a member name. -/
def memberChar (c : Char) : List Char := if c = '"' ∨ c = '\\' then ['\\', c] else [c]

/-- One step of a path. -/
def memberStep (name : String) : List Char :=
  '.' :: '"' :: name.toList.flatMap memberChar ++ ['"']

/-- The path through the given member names. -/
def jsonPath (names : List String) : String := String.ofList ('$' :: names.flatMap memberStep)

end Sql

end DocStore
