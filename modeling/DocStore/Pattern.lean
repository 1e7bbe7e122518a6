import DocStore.Fault
import DocStore.Text.Blank

/-!
# Regular expressions

Patterns of queries may hold literal spans `\Q … \E`, which the engine's expressions do not know.
`Pattern.translate` writes every character of such a span out, with a backslash before each one
that is not a letter or digit, and turns `\w` into a class of ASCII letters and digits.

Of the options, `x` is carried out here: blanks and comments are dropped before anything else.
`m` and `s` become a group of inline flags.  All others are refused.
-/

namespace DocStore

namespace Pattern

/-- The options of a pattern: whether it is extended, and its inline flags in order of first
use. -/
structure Options where
  extended : Bool
  flags : List Char
  deriving DecidableEq, Repr

/-- Read options from left to right. -/
def readOptions (options : Options) : List Char → Except Fault Options
  | [] => .ok options
  | c :: rest =>
    if c = 'x' then readOptions { options with extended := true } rest
    else if c = 'm' ∨ c = 's' then
      readOptions
        (if options.flags.contains c then options
          else { options with flags := options.flags ++ [c] }) rest
    else if c = 'i' then
      .error (.forbidden "case insensitive regex is not supported, use a lower case column")
    else .error (.forbidden ("regex option '" ++ String.singleton c ++ "' is not supported"))

/-- Drop unescaped blanks, and comments from `#` to the end of their line. -/
def stripExtended (inComment : Bool) : List Char → List Char
  | [] => []
  | '\\' :: c :: rest =>
    if inComment then stripExtended (c != '\n') rest
    else '\\' :: c :: stripExtended false rest
  | c :: rest =>
    if inComment then stripExtended (c != '\n') rest
    else if c = '#' then stripExtended true rest
    else if Text.isBlank c then stripExtended false rest
    else c :: stripExtended false rest

/-- One character of a literal span. -/
def literalChar (c : Char) : List Char := if c.isAlphanum then [c] else ['\\', c]

/-- The class of ASCII letters and digits. -/
def wordClass : List Char := "[0-9a-zA-Z]".toList

/-- Write literal spans out and rewrite `\w`; `literal` says that a span is open. -/
def literalize (literal : Bool) : List Char → List Char
  | [] => []
  | '\\' :: c :: rest =>
    if c = 'Q' ∧ !literal then literalize true rest
    else if c = 'E' then literalize false rest
    else if literal then literalChar '\\' ++ literalize literal (c :: rest)
    else if c = 'w' then wordClass ++ literalize literal rest
    else '\\' :: c :: literalize literal rest
  | c :: rest =>
    if literal then literalChar c ++ literalize literal rest else c :: literalize literal rest

/-- The engine's form of a pattern with the given options. -/
def translate (pattern : String) (options : Option String) : Except Fault String := do
  let options ← readOptions ⟨false, []⟩ (options.getD "").toList
  let source :=
    if options.extended then stripExtended false pattern.toList else pattern.toList
  let body := literalize false source
  return String.ofList
    (if options.flags.isEmpty then body else '(' :: '?' :: options.flags ++ ')' :: body)

end Pattern

end DocStore
