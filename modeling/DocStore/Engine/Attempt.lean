import DocStore.Event
import DocStore.Fault

/-!
# What engine errors mean

The same error number of the engine means different things, depending on what was attempted.
`Attempt.verdict` gives the fault that an operation reports for a failure, or none if the failure
does no harm: the operation then counts as done.
-/

namespace DocStore

namespace EngineError

/-- There is no such table. -/
def noSuchTable : Nat := 1146

/-- There is a column of this name already. -/
def duplicateField : Nat := 1060

/-- There is an index of this name already. -/
def duplicateKeyName : Nat := 1061

/-- A unique key has this value already. -/
def duplicateEntry : Nat := 1062

/-- A text column has no length for its key. -/
def keyWithoutLength : Nat := 1170

/-- A value was cut. -/
def dataTruncated : Nat := 1265

/-- A value does not have the type of its column. -/
def truncatedWrongValue : Nat := 1292

end EngineError

/-- What the engine was asked for when it failed. -/
inductive Attempt where
  | createClass
  | addField
  | createObject
  | updateObjects
  | deleteObjects
  | ensureUniqueness
  | fullTextIndex
  /-- Reads, and the removal of everything. -/
  | read
  | other
  deriving DecidableEq, Repr

namespace Attempt

/-- The name of an attempt in events. -/
def name : Attempt → String
  | .createClass => "CreateClass"
  | .addField => "AddField"
  | .createObject => "CreateObject"
  | .updateObjects => "UpdateObjects"
  | .deleteObjects => "DeleteObjects"
  | .ensureUniqueness => "EnsureUniqueness"
  | .fullTextIndex => "FullTextIndex"
  | .read => "Read"
  | .other => "Other"

open EngineError in
/-- The error number that does no harm to an attempt, if it has one. -/
def harmless? : Attempt → Option Nat
  | .addField => some duplicateField
  | .createObject => some dataTruncated
  | .ensureUniqueness | .fullTextIndex => some duplicateKeyName
  | .read | .deleteObjects => some noSuchTable
  | .createClass | .updateObjects | .other => none

open EngineError in
/-- The fault reported for an error number that does harm. -/
def meaning (a : Attempt) (className : String) (number : Nat) (fault : Fault) : Fault :=
  match a with
  | .createClass => if number = duplicateEntry then .duplicateClass className else fault
  | .createObject =>
    if number = duplicateEntry then .duplicateValue
    else if number = truncatedWrongValue then .internal fault.message
    else fault
  | .updateObjects => if number = duplicateEntry then .duplicateValue else fault
  | .ensureUniqueness =>
    if [duplicateField, duplicateEntry, keyWithoutLength].contains number then .duplicateValue
    else fault
  | .addField | .deleteObjects | .fullTextIndex | .read | .other => fault

/-- The fault to report for a failure, or none if the failure does no harm. -/
def verdict (a : Attempt) (className : String) (fault : Fault) : Option Fault :=
  match fault.engineNumber with
  | none => some fault
  | some number =>
    if a.harmless? = some number then none else some (a.meaning className number fault)

/-- The event for a failure that does no harm. -/
def notice (a : Attempt) (className : String) (fault : Fault) : Event :=
  .warn ("ignoring benign engine error: " ++ fault.message)
    [("class_name", className), ("code", toString (fault.engineNumber.getD 0)),
      ("context", a.name)]

/-- The result of an attempt; none if it failed without harm. -/
def resolve {α : Type} (a : Attempt) (className : String) :
    Except Fault α → Except Fault (Option α)
  | .ok v => .ok (some v)
  | .error fault =>
    match a.verdict className fault with
    | none => .ok none
    | some reported => .error reported

end Attempt

end DocStore
