import DocStore.Proofs.Catalog.Fields
import DocStore.Proofs.Dict

/-!
# Schemas in the registry

The JSON form of a schema is read back as the schema (`ClassSchema.ofRegistry_toJson`).  Maps are
written entry by entry, and their entries read one by one (`Dict.ofList_mapM`); the permissions of
other names are told from those of the six operations by their names alone, so none of them may be
called like an operation.

The registry may give the document or its text, with its members in another order, and with another
class name in it: only the members that a schema is made of count
(`ClassSchema.ofRegistry_of_heldBy`).  So schemas and field types are read back from what is put
into the registry (`Store.registered_read_back`).
-/

namespace DocStore

open Sql

/-- A map whose values are written and read one by one. -/
theorem Dict.ofList_mapM {α : Type} (write : α → Json) (read : Json → Option α)
    (h : ∀ v, read (write v) = some v) (d : Dict α) :
    ((d.entries.map fun e => (e.1, write e.2)).mapM fun e : String × Json =>
      (read e.2).map fun v => (e.1, v)).map ofList = some d := by
  have hentries : ∀ es : List (String × α),
      ((es.map fun e => (e.1, write e.2)).mapM fun e : String × Json =>
        (read e.2).map fun v => (e.1, v)) = some es := by
    intro es
    induction es with
    | nil => rfl
    | cons e rest ih => simp [h, ih]
  rw [hentries, Option.map_some, ofList_entries]

namespace Permissions

theorem mapOfJson?_mapToJson (d : Dict Bool) : mapOfJson? (mapToJson d) = some d :=
  Dict.ofList_mapM Json.bool Json.asBool? (fun _ => rfl) d

/-- Permissions are read back from their JSON form. -/
theorem ofJson?_toJson {p : Permissions} (h : ∀ e ∈ p.extra, e.1 ∉ operations) :
    ofJson? p.toJson = some p := by
  -- the further entries are all that is left when those of the operations are taken away
  have hextra : p.extra.filter (fun e => !operations.contains e.1) = p.extra :=
    List.filter_eq_self.2 fun e he => by simpa using h e he
  obtain ⟨find, get, create, update, delete, addField, extra⟩ := p
  have hsix : [("find", mapToJson find), ("get", mapToJson get), ("create", mapToJson create),
      ("update", mapToJson update), ("delete", mapToJson delete),
      ("addField", mapToJson addField)].filter (fun e => !operations.contains e.1) = [] := rfl
  simp only [ofJson?, toJson, List.filter_append, hsix, hextra]
  simp [operation?, Object.get?, List.lookup_cons, mapOfJson?_mapToJson]

end Permissions

/-- How a column of documents gives a document back: as it is, or as its text. -/
inductive Json.StoredAs (v : Json) : Json → Prop where
  | value : StoredAs v v
  | text {text : String} (h : Json.read? text = some v) : StoredAs v (.str text)

namespace ClassSchema

theorem fieldsOfJson?_fieldsToJson (fields : Dict FieldType) :
    fieldsOfJson? (fieldsToJson fields) = some fields :=
  Dict.ofList_mapM FieldType.toJson FieldType.ofJson? FieldType.ofJson?_toJson fields

theorem ofJson?_toJson {s : ClassSchema}
    (h : ∀ p, s.permissions = some p → ∀ e ∈ p.extra, e.1 ∉ Permissions.operations) :
    ofJson? s.toJson = some s := by
  obtain ⟨className, fields, permissions⟩ := s
  cases permissions with
  | none =>
    simp [toJson, ofJson?, ofParts?, List.lookup_cons, Json.asString?,
      fieldsOfJson?_fieldsToJson]
  | some p =>
    have hp : permissionsOfJson? p.toJson = (Permissions.ofJson? p.toJson).map some := rfl
    simp [toJson, ofJson?, ofParts?, List.lookup_cons, Json.asString?,
      fieldsOfJson?_fieldsToJson, hp, Permissions.ofJson?_toJson (h p rfl)]

/-- An object holds a schema if it has its members, whatever class name it has or whether it has
one. -/
def HeldBy (s : ClassSchema) (o : Object) : Prop :=
  ∀ key, key ≠ "className" → o.get? key = s.toJson.get? key

theorem heldBy_toJson (s : ClassSchema) (className : String) :
    ∃ o, toJson { s with className } = .obj o ∧ s.HeldBy o := by
  refine ⟨_, rfl, fun key hkey => ?_⟩
  have hother : (key == "className") = false := by simpa using hkey
  simp only [Object.get?, toJson, Json.get?, List.cons_append, List.lookup_cons, hother]

/-- **A schema is read back from every object that holds it**, and from the text of one. -/
theorem ofRegistry_of_heldBy {s : ClassSchema} {o : Object} {stored : Json} (className : String)
    (h : ∀ p, s.permissions = some p → ∀ e ∈ p.extra, e.1 ∉ Permissions.operations)
    (hheld : s.HeldBy o) (hstored : (Json.obj o).StoredAs stored) :
    ofRegistry className stored = .ok { s with className } := by
  let named : ClassSchema := { s with className }
  have hread :
      ofRegistry className stored = ofJson (.obj (o.insert "className" (.str className))) := by
    cases hstored with
    | value => rfl
    | text htext =>
      simp only [ofRegistry, htext]
      rfl
  -- the members that are looked at are those of the named schema
  have hsame : ∀ key, (o.insert "className" (.str className)).get? key = named.toJson.get? key := by
    intro key
    by_cases hkey : key = "className"
    · subst hkey
      rw [Object.get?_insert_self]
      rfl
    · obtain ⟨members, hmembers, hnamed⟩ := heldBy_toJson s className
      rw [Object.get?_insert_of_ne o hkey, hheld key hkey, ← hnamed key hkey, hmembers]
      rfl
  have hparts : ofJson? (.obj (o.insert "className" (.str className))) = ofJson? named.toJson := by
    have hof : ∀ members : Object, ofJson? (.obj members) = ofParts? (members.get? "className")
      (members.get? "fields") (members.get? "classLevelPermissions") := fun _ => rfl
    rw [hof, hsame, hsame, hsame]
    rfl
  rw [hread, ofJson, hparts, ofJson?_toJson (s := named) h]

/-- **A schema is read back from its JSON form, whatever class name that holds.** -/
theorem ofRegistry_toJson {s : ClassSchema} (className : String)
    (h : ∀ p, s.permissions = some p → ∀ e ∈ p.extra, e.1 ∉ Permissions.operations) :
    ofRegistry className s.toJson = .ok { s with className } := by
  obtain ⟨o, ho, hheld⟩ := heldBy_toJson s s.className
  exact ho ▸ ofRegistry_of_heldBy className h hheld .value

end ClassSchema

namespace Store

theorem typeOfJson_toJson (type : FieldType) : typeOfJson type.toJson = .ok type := by
  rw [typeOfJson, FieldType.ofJson?_toJson]

/-- **A registered type is read back** from the first column of a row. -/
theorem typeOfRow_of_storedAs {type : FieldType} {stored : Json} {row : Row}
    (hstored : type.toJson.StoredAs stored) (hrow : row.first? = some stored) :
    typeOfRow (some row) = .ok (some type) := by
  have htype := typeOfJson_toJson type
  obtain ⟨o, ho⟩ := type.exists_toJson
  unfold typeOfRow
  rw [Option.bind_some, hrow]
  cases hstored with
  | value =>
    rw [ho] at htype ⊢
    simp only [htype]
    rfl
  | text htext =>
    simp only [htext, htype]
    rfl

/-- **What is put into the registry is read back from it.**  A schema is registered as its JSON
form, and from that it is read back under the class name that is asked for; so it is from the text
of this form, and from every other object with the same members, whatever class name it has.  A
field type is registered as its JSON form, and read back from that or its text. -/
theorem registered_read_back :
    (∀ (s : ClassSchema) (className : String),
      (∀ p, s.permissions = some p → ∀ e ∈ p.extra, e.1 ∉ Permissions.operations) →
      ClassSchema.ofRegistry className s.toJson = .ok { s with className } ∧
      ∀ o stored, s.HeldBy o → (Json.obj o).StoredAs stored →
        ClassSchema.ofRegistry className stored = .ok { s with className }) ∧
    (∀ (s : ClassSchema) (registry className : String), ∃ o, s.toJson = .obj o ∧ s.HeldBy o ∧
      (Statement.register registry className s.toJson).params[2]? = some (.json (.obj o))) ∧
    ∀ type : FieldType, FieldType.ofJson? type.toJson = some type ∧
      (∀ registry className field,
        (Statement.registerField registry className field type).params[3]? =
          some (.json type.toJson)) ∧
      ∀ stored row, type.toJson.StoredAs stored → Row.first? row = some stored →
        typeOfRow (some row) = .ok (some type) := by
  refine ⟨fun s className h => ⟨s.ofRegistry_toJson className h, fun o stored hheld hstored =>
    s.ofRegistry_of_heldBy className h hheld hstored⟩, fun s registry className => ?_,
    fun type => ⟨type.ofJson?_toJson, fun _ _ _ => rfl, fun stored row hstored hrow =>
      typeOfRow_of_storedAs hstored hrow⟩⟩
  obtain ⟨o, ho, hheld⟩ := s.heldBy_toJson s.className
  exact ⟨o, ho, hheld, congrArg (fun v => some (Param.json v)) ho⟩

/-- Places with routes, which are lists of lists of points. -/
def place : ClassSchema :=
  (ClassSchema.named "Place").field "routes" (.arrayOf (.arrayOf .geoPoint))

/-- Permissions with protected fields among them. -/
def protectingPermissions : Permissions :=
  { Permissions.allOpen with extra := [("protectedFields", .arr [])] }

/-- The schema of places is read back under another name from its text, and with permissions from
its JSON form. -/
theorem registered_read_back_place :
    ClassSchema.ofRegistry "Town" (.str place.toJson.compact) =
      .ok { place with className := "Town" } ∧
    ClassSchema.ofRegistry "Town"
        (ClassSchema.toJson { place with permissions := some protectingPermissions }) =
      .ok { place with className := "Town", permissions := some protectingPermissions } := by
  obtain ⟨hschema, hregister, -⟩ := registered_read_back
  obtain ⟨o, ho, hheld, -⟩ := hregister place "_SCHEMA" "Town"
  have htext : Json.read? place.toJson.compact = some (.obj o) := by
    rw [← ho]
    decide +kernel
  exact ⟨(hschema place "Town" nofun).2 o _ hheld (.text htext), (hschema _ "Town" (by decide)).1⟩

end Store

end DocStore
