import DocStore.Json.Basic

/-!
# Updates

An `Update` lists operators with the columns they change, in the order in which the columns are
first mentioned.  Changes below dotted keys of one column are gathered into one `Patch`.
-/

namespace DocStore

/-- Changes to members inside an object column.  Paths start below the column. -/
structure Patch where
  deletes : List (List String)
  increments : List (List String × Json)
  sets : List (List String × Json)
  /-- The object that replaces the whole column after all other changes. -/
  whole : Option Json
  deriving DecidableEq, Repr

namespace Patch

/-- No change. -/
def empty : Patch := ⟨[], [], [], none⟩

end Patch

/-- What an update does to one column. -/
inductive Operator where
  | set (value : Json)
  | clear
  | increment (amount : Json)
  | append (items : List Json)
  /-- Append the items that are not there yet. -/
  | appendUnique (items : List Json)
  | remove (items : List Json)
  | patch (changes : Patch)
  /-- New values of authentication providers; `none` removes the provider. -/
  | providers (entries : List (String × Option Json))
  /-- A change of a relation, which is made in its join table and not here. -/
  | relation
  deriving DecidableEq, Repr

/-- Operators by column. -/
abbrev Update := List (String × Operator)

namespace Update

/-- Nothing that this table would show changes. -/
def isIdle (u : Update) : Bool :=
  u.all fun e =>
    match e.2 with
    | .relation => true
    | _ => false

/-- Change the patch of a column, which begins empty at the end of the update. -/
def alterPatch (f : Patch → Patch) (column : String) : Update → Update
  | [] => [(column, .patch (f Patch.empty))]
  | (name, .patch p) :: rest =>
    if name = column then (name, .patch (f p)) :: rest
    else (name, .patch p) :: alterPatch f column rest
  | entry :: rest => entry :: alterPatch f column rest

/-- Add provider entries to those of the update, which begin at its end. -/
def addProviders (entries : List (String × Option Json)) : Update → Update
  | [] => [("authData", .providers entries)]
  | (name, .providers old) :: rest =>
    if name = "authData" then (name, .providers (old ++ entries)) :: rest
    else (name, .providers old) :: addProviders entries rest
  | entry :: rest => entry :: addProviders entries rest

end Update

end DocStore
