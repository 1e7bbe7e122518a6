import DocStore.Fault
import DocStore.Json.Basic

/-!
# Keys of documents

A key may be a dotted path into nested objects (`Key.split`), and a key `_auth_data_<provider>`
stands for one entry of the `authData` object (`Key.provider?`).

* `Document.expand` turns dotted keys into nested objects; a value that is a delete operator
  removes its key instead.
* `Document.foldAuthData` moves the provider keys into `authData`.
* `Document.checkKeys` refuses keys that hold a dollar sign or a dot, at any depth.
-/

namespace DocStore

/-- The operator that an update value names, if it does. -/
def Json.opTag? (v : Json) : Option String := (v.get? "__op").bind Json.asString?

/-- The type that a wrapped value names, if it does. -/
def Json.typeTag? (v : Json) : Option String := (v.get? "__type").bind Json.asString?

/-- The operator that removes a key. -/
def Json.isDelete (v : Json) : Bool := v.opTag? == some "Delete"

namespace Key

/-- The part of a text before its first dot, and the parts behind every dot. -/
def splitChars : List Char → List Char × List (List Char)
  | [] => ([], [])
  | c :: cs =>
    let (first, others) := splitChars cs
    if c = '.' then ([], first :: others) else (c :: first, others)

/-- The root of a dotted key, and the path below it. -/
def split (key : String) : String × List String :=
  let (first, others) := splitChars key.toList
  (String.ofList first, others.map String.ofList)

/-- What the key of an authentication provider begins with. -/
def providerStart : List Char := "_auth_data_".toList

/-- A character of a provider's name. -/
def isProviderChar (c : Char) : Bool := c.isAlphanum || c == '_'

/-- The provider that a key `_auth_data_<provider>` names. -/
def provider? (key : String) : Option String :=
  let cs := key.toList
  let name := cs.drop providerStart.length
  if providerStart.isPrefixOf cs && !name.isEmpty && name.all isProviderChar then
    some (String.ofList name)
  else none

/-- A key that holds a character of operators or of paths. -/
def isReserved (key : String) : Bool := key.toList.any fun c => c == '$' || c == '.'

end Key

namespace Document

/-- Put a value at the end of a path, or remove what is there; whatever stands on the way and is
not an object gives way to one. -/
def place : List String → Option Json → Object → Object
  | [], _, o => o
  | [last], some v, o => o.insert last v
  | [last], none, o => o.erase last
  | head :: next :: rest, v, o =>
    o.alter (fun old =>
      match old with
      | some (.obj child) => .obj (place (next :: rest) v child)
      | _ => .obj (place (next :: rest) v [])) head

/-- Add one entry whose key may be dotted. -/
def expandEntry (out : Object) (entry : String × Json) : Object :=
  match Key.split entry.1 with
  | (_, []) => out.insert entry.1 entry.2
  | (root, path) =>
    place (root :: path) (if entry.2.isDelete then none else some entry.2) out

/-- Dotted keys as nested objects. -/
def expand (o : Object) : Object := o.foldl expandEntry []

/-- Move the value of one provider key into `authData`. -/
def foldProvider (o : Object) (key provider : String) : Object :=
  match o.get? key with
  | none => o
  | some v =>
    (o.erase key).alter (fun old =>
      match old with
      | some (.obj providers) => .obj (Object.insert providers provider v)
      | _ => .obj [(provider, v)]) "authData"

/-- Move the values of all provider keys into `authData`. -/
def foldAuthData (o : Object) : Object :=
  (o.filterMap fun e => (Key.provider? e.1).map fun p => (e.1, p)).foldl
    (fun o e => foldProvider o e.1 e.2) o

mutual

/-- Refuse reserved keys at any depth; what is nested is looked at first. -/
def checkKeys : Json → Except Fault Unit
  | .arr items => checkItems items
  | .obj entries => checkEntries entries
  | _ => .ok ()

/-- The items of an array. -/
def checkItems : List Json → Except Fault Unit
  | [] => .ok ()
  | v :: rest => do
    checkKeys v
    checkItems rest

/-- The entries of an object. -/
def checkEntries : List (String × Json) → Except Fault Unit
  | [] => .ok ()
  | (k, v) :: rest => do
    checkKeys v
    if Key.isReserved k then .error (.invalidNestedKey k) else checkEntries rest

end

end Document

end DocStore
