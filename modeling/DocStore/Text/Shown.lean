import DocStore.Text.Hidden

/-!
# Texts between quotes

How a name is shown in an event: between double quotes, with quotes and backslashes escaped, the
common controls by their letter, and every other hidden character by its number.
-/

namespace DocStore

namespace Text

/-- A character by its number. -/
def numbered (c : Char) : String :=
  "\\u\x7b" ++ String.ofList (Nat.toDigits 16 c.toNat) ++ "\x7d"

/-- One character of a shown text. -/
def shownChar (c : Char) : String :=
  if c = '\x00' then "\\0"
  else if c = '\t' then "\\t"
  else if c = '\r' then "\\r"
  else if c = '\n' then "\\n"
  else if c = '"' ∨ c = '\\' then String.ofList ['\\', c]
  else if isHidden c then numbered c
  else String.singleton c

/-- A text between quotes. -/
def shown (s : String) : String :=
  "\"" ++ String.join (s.toList.map shownChar) ++ "\""

end Text

end DocStore
