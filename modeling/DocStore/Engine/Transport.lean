import DocStore.Fault

/-!
# Failures below the engine

What can go wrong on the way to the engine, and the fault that the store makes of it.  An answer of
the engine is an engine fault; a lost or missing transport is a connection fault, after which the
connection is given up; everything else is a database fault.
-/

namespace DocStore

/-- A failure reported by the driver of the engine. -/
inductive TransportFailure where
  /-- The engine refused a statement. -/
  | refused (number : Option Nat) (detail : String)
  | io (detail : String)
  | tls (detail : String)
  | protocol (detail : String)
  | poolTimedOut
  | poolClosed
  | workerCrashed
  | configuration (detail : String)
  | rowNotFound
  | columnNotFound (name : String)
  deriving DecidableEq, Repr

namespace TransportFailure

/-- The text of a failure. -/
def text : TransportFailure → String
  | .refused _ detail => detail
  | .io detail => "error communicating with database: " ++ detail
  | .tls detail => "error occurred while attempting to establish a TLS connection: " ++ detail
  | .protocol detail => "encountered unexpected or invalid data: " ++ detail
  | .poolTimedOut => "pool timed out while waiting for an open connection"
  | .poolClosed => "attempted to acquire a connection on a closed pool"
  | .workerCrashed => "attempted to communicate with a crashed background worker"
  | .configuration detail => "error with configuration: " ++ detail
  | .rowNotFound =>
    "no rows returned by a query that expected to return at least one row"
  | .columnNotFound name => "no column found for name: " ++ name

/-- The fault that a failure becomes. -/
def fault (e : TransportFailure) : Fault :=
  match e with
  | .refused number detail => .engine number detail
  | .io _ | .tls _ | .protocol _ | .poolTimedOut | .poolClosed | .workerCrashed =>
    .connection e.text
  | .configuration _ | .rowNotFound | .columnNotFound _ => .database e.text

end TransportFailure

end DocStore
