import DocStore.Schema.Basic

/-!
# Classes that every store starts with

The classes that initialization creates tables for: push and job bookkeeping, hooks, global
configuration and audiences.
-/

namespace DocStore

namespace ClassSchema

/-- A schema with the default fields and the given ones. -/
def standard (className : String) (fields : List (String × FieldType)) : ClassSchema :=
  fields.foldl (fun s e => s.field e.1 e.2) (withDefaultFields className)

/-- The classes of bookkeeping in the order in which they are created. -/
def builtin : List ClassSchema :=
  [standard "_PushStatus"
      [("pushTime", .string), ("source", .string), ("query", .string), ("payload", .string),
        ("title", .string), ("expiry", .number), ("expiration_interval", .number),
        ("status", .string), ("numSent", .number), ("numFailed", .number), ("pushHash", .string),
        ("errorMessage", .object), ("sentPerType", .object), ("failedPerType", .object),
        ("sentPerUTCOffset", .object), ("failedPerUTCOffset", .object), ("count", .number)],
    standard "_JobStatus"
      [("jobName", .string), ("source", .string), ("status", .string), ("message", .string),
        ("params", .object), ("finishedAt", .date)],
    standard "_JobSchedule"
      [("jobName", .string), ("description", .string), ("params", .string),
        ("startAfter", .string), ("daysOfWeek", .array), ("timeOfDay", .string),
        ("lastRun", .number), ("repeatMinutes", .number)],
    standard "_Hooks"
      [("functionName", .string), ("className", .string), ("triggerName", .string),
        ("url", .string)],
    standard "_GlobalConfig" [("params", .object)],
    standard "_Audience"
      [("name", .string), ("query", .string), ("lastUsed", .date), ("timesUsed", .number)]]

end ClassSchema

end DocStore
