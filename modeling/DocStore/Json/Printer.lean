import DocStore.Json.Basic
import DocStore.Number.Decimal

/-!
# Compact JSON text

`Json.compact` writes a value without blanks, with the keys of objects in their order.  Strings
escape the quote, the backslash and the control characters below U+0020 and nothing else.
Floating point numbers have their shortest digits (`Number.layout`) and always look different
from integers, so that reading the text back keeps the kind of every number.
-/

namespace DocStore

namespace Number

/-- Numbers in JSON text: exponents of ten from -5 to 15 are written positionally, and a whole
number ends in `.0`. -/
def layout : Decimal.Layout where
  positional e := decide (-5 ≤ e ∧ e < 16)
  wholeEnd := ['.', '0']
  tie := .toEven

/-- The text of a number; what is not finite is `null`. -/
def text : Number → String
  | .int n => toString n
  | .float x => if x.isFinite then layout.write x else "null"

end Number

namespace Json

/-- A hexadecimal digit. -/
def hexDigit (n : Nat) : Char := if n < 10 then Char.ofNat (48 + n) else Char.ofNat (87 + n)

/-- One character inside quotes. -/
def escapeChar (c : Char) : List Char :=
  if c = '"' then ['\\', '"']
  else if c = '\\' then ['\\', '\\']
  else if c = '\n' then ['\\', 'n']
  else if c = '\r' then ['\\', 'r']
  else if c = '\t' then ['\\', 't']
  else if c.toNat = 8 then ['\\', 'b']
  else if c.toNat = 12 then ['\\', 'f']
  else if c.toNat < 32 then
    ['\\', 'u', '0', '0', hexDigit (c.toNat / 16), hexDigit (c.toNat % 16)]
  else [c]

/-- A string in quotes. -/
def quote (s : String) : String := String.ofList ('"' :: s.toList.flatMap escapeChar ++ ['"'])

mutual

/-- The compact text of a value. -/
def compact : Json → String
  | .null => "null"
  | .bool b => if b then "true" else "false"
  | .num n => n.text
  | .str s => quote s
  | .arr items => "[" ++ compactItems items ++ "]"
  | .obj entries => "\x7b" ++ compactEntries entries ++ "\x7d"

/-- Items separated by commas. -/
def compactItems : List Json → String
  | [] => ""
  | [v] => compact v
  | v :: rest => compact v ++ "," ++ compactItems rest

/-- Entries separated by commas. -/
def compactEntries : List (String × Json) → String
  | [] => ""
  | [(k, v)] => quote k ++ ":" ++ compact v
  | (k, v) :: rest => quote k ++ ":" ++ compact v ++ "," ++ compactEntries rest

end

end Json

end DocStore
