import DocStore.Json.Printer

/-!
# Quoting

Names are written between backquotes, with a backquote inside written twice.  Strings are written
between single quotes, with a quote written twice and the backslash and NUL escaped; every other
character stands for itself.
-/

namespace DocStore

namespace Sql

/-- The character that names are written between. -/
def backquote : Char := '\x60'

/-- The character that strings are written between. -/
def quoteMark : Char := '\x27'

/-- One character of a name. -/
def nameChar (c : Char) : List Char := if c = backquote then [backquote, backquote] else [c]

/-- One character of a string. -/
def stringChar (c : Char) : List Char :=
  if c = quoteMark then [quoteMark, quoteMark]
  else if c = '\\' then ['\\', '\\']
  else if c = '\x00' then ['\\', '0']
  else [c]

/-- A name in quotes. -/
def quoteName (name : String) : String :=
  String.ofList (backquote :: name.toList.flatMap nameChar ++ [backquote])

/-- A string in quotes. -/
def quoteString (s : String) : String :=
  String.ofList (quoteMark :: s.toList.flatMap stringChar ++ [quoteMark])

/-- A JSON value as an SQL literal; arrays and objects become strings that hold their text. -/
def literal : Json → String
  | .null => "NULL"
  | .bool true => "TRUE"
  | .bool false => "FALSE"
  | .num n => n.text
  | .str s => quoteString s
  | .arr items => quoteString (Json.arr items).compact
  | .obj entries => quoteString (Json.obj entries).compact

end Sql

end DocStore
