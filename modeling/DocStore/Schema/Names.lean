import DocStore.Fault

/-!
# Names of classes, fields and join tables

A class name is a letter followed by letters, digits and underscores, one of the system classes,
or the name of a join table.  A relation field keeps its references in a join table of its own,
which is named after the field and the class that owns it.
-/

namespace DocStore

namespace Names

/-- The classes whose names begin with an underscore. -/
def systemClasses : List String :=
  ["_User", "_Installation", "_Role", "_Session", "_Product", "_PushStatus", "_JobStatus",
    "_JobSchedule", "_Hooks", "_GlobalConfig", "_Audience"]

/-- What the name of every join table begins with. -/
def joinStart : String := "_Join:"

/-- The join table of a relation field. -/
def joinTable (owner field : String) : String := joinStart ++ field ++ ":" ++ owner

/-- The name of a join table. -/
def isJoinTable (name : String) : Bool := joinStart.toList.isPrefixOf name.toList

/-- A character behind the first of a class name. -/
def isNameChar (c : Char) : Bool := c.isAlphanum || c == '_'

/-- A letter followed by letters, digits and underscores. -/
def isPlainName (name : String) : Bool :=
  match name.toList with
  | [] => false
  | c :: rest => c.isAlpha && rest.all isNameChar

/-- Refuse what is no class name. -/
def checkClass (name : String) : Except Fault Unit :=
  if systemClasses.contains name || isPlainName name || isJoinTable name then .ok ()
  else .error (.invalidClassName name)

/-- Refuse what is no field name: the empty name, and names with a dot or a dollar sign. -/
def checkField (name : String) : Except Fault Unit :=
  if name.isEmpty || name.toList.any (fun c => c == '.' || c == '$') then
    .error (.invalidFieldName name)
  else .ok ()

end Names

end DocStore
