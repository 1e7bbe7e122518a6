import DocStore.Json.Basic

/-!
# Types of document fields

A field type is written as a JSON object with a `type` entry (`FieldType.toJson`), and read from
such an object or from the array of its parts in order (`FieldType.ofJson?`).  The element type
of an array may also name its kind by position in `kindNames`.
-/

namespace DocStore

/-- The type of a field. -/
inductive FieldType where
  | string
  | number
  | boolean
  | date
  | object
  /-- An array of anything. -/
  | array
  /-- An array whose elements have a declared type. -/
  | arrayOf (contents : FieldType)
  | bytes
  | file
  | geoPoint
  /-- A reference to one document of a class. -/
  | pointer (target : String)
  /-- A set of references to documents of a class, kept in a join table. -/
  | relation (target : String)
  deriving DecidableEq, Repr

namespace FieldType

/-- An array, of whatever elements. -/
def isArray : FieldType → Bool
  | .array | .arrayOf _ => true
  | _ => false

/-- A relation, which has no column of its own. -/
def isRelation : FieldType → Bool
  | .relation _ => true
  | _ => false

/-- An array that is declared to hold strings. -/
def isStringArray : FieldType → Bool
  | .arrayOf .string => true
  | _ => false

/-- The class that a pointer or relation refers to. -/
def target? : FieldType → Option String
  | .pointer target | .relation target => some target
  | _ => none

/-- The JSON form of a type. -/
def toJson : FieldType → Json
  | .string => .obj [("type", .str "String")]
  | .number => .obj [("type", .str "Number")]
  | .boolean => .obj [("type", .str "Boolean")]
  | .date => .obj [("type", .str "Date")]
  | .object => .obj [("type", .str "Object")]
  | .array => .obj [("type", .str "Array")]
  | .arrayOf contents => .obj [("type", .str "Array"), ("contents", contents.toJson)]
  | .bytes => .obj [("type", .str "Bytes")]
  | .file => .obj [("type", .str "File")]
  | .geoPoint => .obj [("type", .str "GeoPoint")]
  | .pointer target => .obj [("type", .str "Pointer"), ("targetClass", .str target)]
  | .relation target => .obj [("type", .str "Relation"), ("targetClass", .str target)]

/-- What a kind still needs to become a type. -/
inductive Shape where
  | plain (type : FieldType)
  | array
  | link (make : String → FieldType)

/-- The kinds of types by name. -/
def shapeOfName? : String → Option Shape
  | "String" => some (.plain .string)
  | "Number" => some (.plain .number)
  | "Boolean" => some (.plain .boolean)
  | "Date" => some (.plain .date)
  | "Object" => some (.plain .object)
  | "Array" => some .array
  | "Bytes" => some (.plain .bytes)
  | "File" => some (.plain .file)
  | "GeoPoint" => some (.plain .geoPoint)
  | "Pointer" => some (.link .pointer)
  | "Relation" => some (.link .relation)
  | _ => none

/-- The names of all kinds in order. -/
def kindNames : List String :=
  ["String", "Number", "Boolean", "Date", "Object", "Array", "Bytes", "File", "GeoPoint",
    "Pointer", "Relation"]

/-- The kind that a JSON value names; inside another type a position will do. -/
def shape? (nested : Bool) : Json → Option Shape
  | .str name => shapeOfName? name
  | .num n =>
    if nested then
      (n.toNatBelow? kindNames.length).bind fun i => (kindNames[i]?).bind shapeOfName?
    else none
  | _ => none

mutual

/-- Read a type; `nested` says that it is the element type of another. -/
def decode (nested : Bool) : Json → Option FieldType
  | .obj entries =>
    match (entries.lookup "type").bind (shape? nested) with
    | some (.plain type) => some type
    | some (.link make) => ((entries.lookup "targetClass").bind Json.asString?).map make
    | some .array => decodeMember entries
    | none => none
  | .arr (kind :: rest) =>
    match shape? nested kind with
    | some (.plain type) => if rest.isEmpty then some type else none
    | some (.link make) =>
      match rest with
      | [.str target] => some (make target)
      | _ => none
    | some .array => decodeTail rest
    | none => none
  | _ => none

/-- The array type whose element type is the entry `contents`. -/
def decodeMember : List (String × Json) → Option FieldType
  | [] => some .array
  | (k, v) :: rest =>
    if k = "contents" then
      if v.isNull then some .array else (decode true v).map .arrayOf
    else decodeMember rest

/-- The array type whose element type is the only item. -/
def decodeTail : List Json → Option FieldType
  | [] => some .array
  | [v] => if v.isNull then some .array else (decode true v).map .arrayOf
  | _ => none

end

/-- Read a type from its JSON form. -/
def ofJson? (v : Json) : Option FieldType := decode false v

end FieldType

end DocStore
