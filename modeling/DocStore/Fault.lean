/-!
# Faults

A `Fault` says why an operation did not give a result.  `Fault.message` is the text shown for
it; callers tell faults apart by constructor.
-/

namespace DocStore

/-- The reasons for which an operation fails. -/
inductive Fault where
  /-- The class is registered already. -/
  | duplicateClass (className : String)
  /-- A unique constraint refuses a value. -/
  | duplicateValue
  /-- The field is registered with another type. -/
  | fieldAlreadyExists (className field : String)
  /-- Nothing matched. -/
  | objectNotFound
  /-- A key inside a document holds a character that is reserved for operators and paths. -/
  | invalidNestedKey (key : String)
  | invalidClassName (className : String)
  | invalidFieldName (field : String)
  /-- The schema does not declare the field. -/
  | unknownField (className field : String)
  /-- A value does not have the type of its field. -/
  | incorrectType (field detail : String)
  | invalidQuery (detail : String)
  | unsupportedQuery (field detail : String)
  | unsupportedUpdate (field value : String)
  | forbidden (detail : String)
  | internal (detail : String)
  /-- The engine answered a statement with an error. -/
  | engine (number : Option Nat) (detail : String)
  /-- The transport to the engine was lost. -/
  | connection (detail : String)
  /-- Any other failure on the way to the engine. -/
  | database (detail : String)
  /-- A JSON value does not have the expected shape. -/
  | json (detail : String)
  deriving DecidableEq, Repr

namespace Fault

/-- The text shown for a fault. -/
def message : Fault → String
  | .duplicateClass className => "Class " ++ className ++ " already exists."
  | .duplicateValue => "A duplicate value for a field with unique values was provided"
  | .fieldAlreadyExists className field =>
    "Field " ++ field ++ " already exists on class " ++ className
  | .objectNotFound => "Object not found."
  | .invalidNestedKey key =>
    "Nested keys should not contain the '$' or '.' characters: " ++ key
  | .invalidClassName className => "Invalid class name: " ++ className
  | .invalidFieldName field => "Invalid field name: " ++ field
  | .unknownField className field =>
    "Field " ++ field ++ " is not defined on class " ++ className
  | .incorrectType field detail => "Incorrect type for field " ++ field ++ ": " ++ detail
  | .invalidQuery detail => "Invalid query: " ++ detail
  | .unsupportedQuery field detail => "Unsupported query on field " ++ field ++ ": " ++ detail
  | .unsupportedUpdate field value =>
    "Unsupported update of field " ++ field ++ " with " ++ value
  | .forbidden detail => "Operation forbidden: " ++ detail
  | .internal detail => "Internal error: " ++ detail
  | .engine (some number) detail => "Engine error: [" ++ toString number ++ "] " ++ detail
  | .engine none detail => "Engine error: " ++ detail
  | .connection detail => "Connection error: " ++ detail
  | .database detail => "Database error: " ++ detail
  | .json detail => "JSON error: " ++ detail

/-- Whether the connection that gave this fault must be dropped. -/
def isConnectionLoss : Fault → Bool
  | .connection _ => true
  | _ => false

/-- The engine's error number. -/
def engineNumber : Fault → Option Nat
  | .engine number _ => number
  | _ => none

end Fault

/-- A value, or a fault in its absence. -/
def orFault {α : Type} (fault : Fault) : Option α → Except Fault α
  | some a => .ok a
  | none => .error fault

end DocStore
