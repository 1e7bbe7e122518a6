import DocStore.Json.Basic

/-!
# Configuration

Where the engine is, what the registry is called, and which tables besides those of the registered
classes belong to the store.
-/

namespace DocStore

/-- What a store has to know. -/
structure Config where
  uri : String
  /-- The name of the registry. -/
  registry : String
  /-- Tables that are dropped together with the registered classes. -/
  systemTables : List String
  deriving DecidableEq, Repr

namespace Config

/-- The system tables unless others are given. -/
def usualSystemTables : List String :=
  ["_PushStatus", "_JobStatus", "_JobSchedule", "_Hooks", "_GlobalConfig", "_Audience"]

/-- A configuration for an address. -/
def ofUri (uri : String) : Config := ⟨uri, "_SCHEMA", usualSystemTables⟩

/-- The configuration without an address. -/
def usual : Config := ofUri ""

/-- The JSON form of a configuration. -/
def toJson (c : Config) : Json :=
  .obj [("uri", .str c.uri), ("schema_table", .str c.registry),
    ("system_tables", .arr (c.systemTables.map .str))]

/-- An entry that may be absent, but not of another type. -/
def entry? {α : Type} (read : Json → Option α) (usual : α) : Option Json → Option α
  | none => some usual
  | some v => read v

/-- A configuration from its entries; those that are absent are as usual. -/
def ofEntries? (uri registry systemTables : Option Json) : Option Config := do
  let uri ← entry? Json.asString? usual.uri uri
  let registry ← entry? Json.asString? usual.registry registry
  let systemTables ← entry? Json.asStrings? usual.systemTables systemTables
  return { uri, registry, systemTables }

/-- Read a configuration from an object, or from the array of its entries in order. -/
def ofJson? : Json → Option Config
  | .obj o => ofEntries? (o.lookup "uri") (o.lookup "schema_table") (o.lookup "system_tables")
  | .arr entries =>
    if entries.length ≤ 3 then ofEntries? entries[0]? entries[1]? entries[2]? else none
  | _ => none

end Config

end DocStore
