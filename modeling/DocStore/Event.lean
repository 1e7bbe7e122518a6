import DocStore.Text.Shown

/-!
# Events

The store reports what it does as events: a severity, a message and named details.  A list of
names is shown in brackets, each name in quotes; an absent number is shown as `None`.
-/

namespace DocStore

/-- How important an event is. -/
inductive Severity where
  | trace
  | debug
  | info
  | warn
  deriving DecidableEq, Repr

namespace Severity

/-- The name of a severity. -/
def name : Severity → String
  | .trace => "TRACE"
  | .debug => "DEBUG"
  | .info => "INFO"
  | .warn => "WARN"

end Severity

/-- Something that happened. -/
structure Event where
  severity : Severity
  message : String
  details : List (String × String)
  deriving DecidableEq, Repr

namespace Event

/-- An event of the course of an operation. -/
def debug (message : String) (details : List (String × String)) : Event :=
  ⟨.debug, message, details⟩

/-- An event that asks for attention. -/
def warn (message : String) (details : List (String × String)) : Event :=
  ⟨.warn, message, details⟩

/-- A list of names as a detail. -/
def namesText (names : List String) : String :=
  "[" ++ ", ".intercalate (names.map Text.shown) ++ "]"

/-- An optional number as a detail. -/
def numberText : Option Nat → String
  | none => "None"
  | some n => "Some(" ++ toString n ++ ")"

end Event

end DocStore
