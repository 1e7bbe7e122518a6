import DocStore.Calendar.Reader
import DocStore.Document.Key

/-!
# Wrapped values

Documents hold values that JSON does not have as objects with a `__type` entry: pointers to other
documents, dates, files.  This module reads what such a wrapper stands for.
-/

namespace DocStore

namespace Document

/-- The identifier that a pointer points to. -/
def pointerId? (v : Json) : Option String :=
  if v.typeTag? = some "Pointer" then (v.get? "objectId").bind Json.asString? else none

/-- The name that a file wrapper holds. -/
def fileName? (v : Json) : Option String := (v.get? "name").bind Json.asString?

/-- The timestamp text for a bare date string or a date wrapper; `none` for a wrapper without its
`iso` entry. -/
def dateText? (field : String) (v : Json) : Except Fault (Option String) :=
  let read (iso : String) : Except Fault (Option String) :=
    match Timestamp.read? iso with
    | some t => .ok (some t.engineText)
    | none => .error (.incorrectType field ("invalid date " ++ iso))
  match v with
  | .str iso => read iso
  | .obj _ =>
    if v.typeTag? = some "Date" then
      match (v.get? "iso").bind Json.asString? with
      | some iso => read iso
      | none => .ok none
    else .error (.incorrectType field "expected a Date")
  | _ => .error (.incorrectType field "expected a Date")

/-- The wrapper for a point in time. -/
def dateWrapper (t : Timestamp) : Json :=
  .obj [("__type", .str "Date"), ("iso", .str t.isoText)]

end Document

end DocStore
