import DocStore.Proofs.Catalog.Fields
import DocStore.Proofs.Command.Definitions
import DocStore.Proofs.Schema.Views

/-!
# Evolution of classes

A field comes to a class in two ways: the class is created with it, or it is added later.  Both ways
end in the same tables with the same columns, and in the same schema document
(`Catalog.declares_added`).

The two ways build their texts separately, so what they define is read off the texts
(`Definition`).  The columns of a schema come in the order of the field names and an added column
comes last, and so it is with the members of a schema document: neither order counts.
-/

namespace DocStore

open Sql

namespace ClassSchema

variable {s : ClassSchema} {field : String} {type : FieldType}

/-! ### The schema with one more field -/

theorem fieldType?_field (s : ClassSchema) (field : String) (type : FieldType) (name : String) :
    (s.field field type).fieldType? name = if name = field then some type else s.fieldType? name :=
  Dict.get?_insert _ _ _ _

theorem fieldType?_of_storage (h : s.storage.fieldType? field = none) :
    s.fieldType? field = none := by
  rw [fieldType?_storage, Option.or_eq_none_iff, Option.or_eq_none_iff] at h
  exact h.2.1

/-- A field that the storage view lacks is added to it as well. -/
theorem storage_field (h : s.storage.fieldType? field = none) (type : FieldType) :
    (s.field field type).storage = s.storage.field field type := by
  refine ext_fieldType? rfl (fun name => ?_) rfl
  rw [fieldType?_field, fieldType?_storage, fieldType?_field]
  by_cases hname : name = field
  · subst hname
    rw [fieldType?_storage, Option.or_eq_none_iff] at h
    rw [if_pos rfl, if_pos rfl, h.1, Option.none_or, Option.some_or]
  · rw [if_neg hname, if_neg hname, fieldType?_storage]
    rfl

theorem entries_field_perm (h : s.fieldType? field = none) (type : FieldType) :
    (s.field field type).fields.entries.Perm ((field, type) :: s.fields.entries) :=
  Dict.entries_insert_perm h type

/-- A relation is one more relation of the schema, and another field is none. -/
theorem relationFields_field_perm (h : s.fieldType? field = none) (type : FieldType) :
    (s.field field type).relationFields.Perm
      (s.relationFields ++ if type.isRelation then [field] else []) := by
  have hentries := ((entries_field_perm h type).filter fun e => e.2.isRelation).map Prod.fst
  refine hentries.trans ?_
  split
  · next hrelation =>
    rw [List.filter_cons_of_pos (by exact hrelation)]
    exact (List.perm_append_singleton field s.relationFields).symm
  · next hrelation =>
    rw [List.filter_cons_of_neg (by exact hrelation), List.append_nil]
    rfl

/-- A relation has no column, and another field is one more column. -/
theorem columns_field_perm (hid : field ≠ "objectId") (h : s.storage.fieldType? field = none)
    (type : FieldType) :
    (s.field field type).columns.Perm
      (s.columns ++ if type.isRelation then [] else [Column.ofField field type]) := by
  have hentries := ((entries_field_perm h type).filter fun e =>
    e.1 != "objectId" && !e.2.isRelation).map fun e => Column.ofField e.1 e.2
  rw [columns, storage_field h, columns, List.cons_append]
  refine (hentries.trans ?_).cons _
  split
  · next hrelation =>
    rw [List.filter_cons_of_neg (by simp [hrelation]), List.append_nil]
  · next hrelation =>
    rw [List.filter_cons_of_pos (by simp [hid, hrelation])]
    exact (List.perm_append_singleton _ _).symm

end ClassSchema

/-! ### What is defined -/

namespace Command

open Definition (cells tables)

/-- What the commands that create the tables of a class define. -/
def tableDefinitions (className : String) (schema : ClassSchema) : List Definition :=
  ⟨className, true, schema.columns.map fun c => (c.name, c.type.tokens)⟩ ::
    schema.relationFields.map fun field => joinDefinition (Names.joinTable className field)

/-- What the command that adds a field defines. -/
def fieldDefinition (className field : String) (type : FieldType) : Definition :=
  if type.isRelation then joinDefinition (Names.joinTable className field)
  else columnDefinition className field type

theorem defines_createTables (className : String) (schema : ClassSchema) :
    List.Forall₂ Defines (createTables className schema) (tableDefinitions className schema) := by
  refine .cons (defines_createTable className schema) ?_
  rw [List.forall₂_map_left_iff, List.forall₂_map_right_iff]
  exact List.forall₂_same.2 fun field _ => defines_createJoinTable _

theorem defines_addField (className field : String) (type : FieldType) :
    (addField className field type).Defines (fieldDefinition className field type) := by
  unfold addField fieldDefinition
  split
  · exact defines_createJoinTable _
  · exact defines_addColumn _ _ _

variable {s : ClassSchema} {className field : String} {type : FieldType}

theorem tables_append (ds es : List Definition) : tables (ds ++ es) = tables ds ++ tables es := by
  simp [tables]

theorem cells_append (ds es : List Definition) : cells (ds ++ es) = cells ds ++ cells es :=
  List.flatMap_append

theorem tables_tableDefinitions (className : String) (schema : ClassSchema) :
    tables (tableDefinitions className schema) =
      className :: schema.relationFields.map (Names.joinTable className) := by
  simp [tables, tableDefinitions, joinDefinition, Function.comp_def, List.filter_map]

theorem cells_tableDefinitions (className : String) (schema : ClassSchema) :
    cells (tableDefinitions className schema) =
      (schema.columns.map fun c => (className, c.name, c.type.tokens)) ++
        schema.relationFields.flatMap fun field =>
          cells [joinDefinition (Names.joinTable className field)] := by
  simp [cells, tableDefinitions, List.flatMap_map, Function.comp_def]

/-- The tables of a class with one more field are those of the class, and that of the relation. -/
theorem tables_field_perm (className : String) (h : s.fieldType? field = none)
    (type : FieldType) :
    (tables (tableDefinitions className (s.field field type))).Perm
      (tables (tableDefinitions className s ++ [fieldDefinition className field type])) := by
  have hrelations := (s.relationFields_field_perm h type).map (Names.joinTable className)
  rw [tables_append, tables_tableDefinitions, tables_tableDefinitions, List.cons_append]
  refine (hrelations.trans (.of_eq ?_)).cons _
  rw [List.map_append]
  unfold fieldDefinition
  split <;> rfl

/-- The columns of a class with one more field are those of the class, and those of the field. -/
theorem cells_field_perm (className : String) (hid : field ≠ "objectId")
    (h : s.storage.fieldType? field = none) (type : FieldType) :
    (cells (tableDefinitions className (s.field field type))).Perm
      (cells (tableDefinitions className s ++ [fieldDefinition className field type])) := by
  have hcolumns := (s.columns_field_perm hid h type).map fun c =>
    (className, c.name, c.type.tokens)
  have hrelations := (s.relationFields_field_perm (s.fieldType?_of_storage h) type).flatMap_right
    fun field => cells [joinDefinition (Names.joinTable className field)]
  rw [cells_append, cells_tableDefinitions, cells_tableDefinitions]
  refine (hcolumns.append hrelations).trans ?_
  rw [List.map_append, List.flatMap_append, fieldDefinition]
  split
  · -- the columns of the relation's table come last
    rw [List.map_nil, List.append_nil, List.append_assoc]
    exact .of_eq (by simp)
  · -- the column of the field comes before the tables of the relations
    rw [List.flatMap_nil, List.append_nil, List.append_assoc, List.append_assoc]
    exact List.perm_append_comm.append_left _

end Command

/-! ### What is registered -/

namespace ClassSchema

open Json (HasObjects)

/-- A schema document holds the types of the fields below `fields`. -/
theorem content_toJson_fields (s : ClassSchema) (path : List String) :
    s.toJson.content ("fields" :: path) = (fieldsToJson s.fields).content path :=
  Json.content_cons_of_some (by simp [Object.get?, List.lookup_cons]) path

theorem content_fieldsToJson (fields : Dict FieldType) (name : String) (path : List String) :
    (fieldsToJson fields).content (name :: path) =
      (fields.get? name).bind fun type => type.toJson.content path := by
  rw [fieldsToJson, Json.content_cons, Object.get?, Dict.lookup_map_snd, Dict.get?,
    Option.bind_map]
  rfl

theorem hasObjects_toJson (s : ClassSchema) (field : String) :
    s.toJson.HasObjects ["fields", field] := by
  intro path hpath hne
  rcases path with - | ⟨name, - | ⟨other, rest⟩⟩
  · rfl
  · obtain ⟨rfl, -⟩ := List.cons_prefix_cons.1 hpath
    exact s.content_toJson_fields []
  · -- only the whole path is as long
    have hwhole : name :: other :: rest = ["fields", field] := hpath.eq_of_length_le (by simp)
    exact absurd hwhole hne

/-- The schema document with one more field differs below that field. -/
theorem content_toJson_field (s : ClassSchema) (field : String) (type : FieldType)
    (path : List String) :
    (s.field field type).toJson.content path =
      if ["fields", field] <+: path then type.toJson.content (path.drop 2)
      else s.toJson.content path := by
  rcases path with - | ⟨name, path⟩
  · simp [toJson]
  · by_cases hname : name = "fields"
    · subst hname
      rw [content_toJson_fields, content_toJson_fields]
      rcases path with - | ⟨other, path⟩
      · simp [fieldsToJson]
      · have hget := s.fieldType?_field field type other
        unfold fieldType? at hget
        rw [content_fieldsToJson, content_fieldsToJson, hget]
        by_cases hother : other = field
        · simp [hother]
        · simp [hother, Ne.symm hother]
    · -- the other members are those of the schema
      have hmember : (name == "fields") = false := by simpa using hname
      have hget : s.toJson.get? name = (s.field field type).toJson.get? name := by
        simp [toJson, Json.get?, List.lookup_cons, hmember, ClassSchema.field]
      have hsame := congrArg (fun v => v.bind fun child => Json.content child path) hget
      rw [if_neg (by simp [Ne.symm hname])]
      exact ((Json.content_cons _ name path).trans hsame.symm).trans
        (Json.content_cons _ name path).symm

/-- **Registering a field leaves the schema document of the schema with the field.** -/
theorem sameContent_registerIn {s : ClassSchema} {d : Json} (h : d.SameContent s.toJson)
    (field : String) (type : FieldType) :
    (Deed.registerIn field type (some d)).SameContent (s.field field type).toJson := by
  have hobjects : ∀ e : Json, (∀ path, e.content path = s.toJson.content path) →
      e.HasObjects ["fields", field] := fun e he path hpath hne => by
    rw [he]
    exact s.hasObjects_toJson field path hpath hne
  have hroot : d.HasObjects ["fields"] := fun path hpath hne =>
    hobjects d h path (hpath.trans (List.prefix_append _ [field])) fun heq => by
      simpa [heq] using hpath.length_le
  -- the document has its fields, so they are put back where they are
  obtain ⟨fields, hfields⟩ : ∃ fields, d.at? ["fields"] = some fields := by
    refine Option.ne_none_iff_exists'.1 fun hnone => ?_
    have hcontent := (h ["fields"]).trans (s.content_toJson_fields [])
    rw [Json.content_eq_none_iff.2 hnone] at hcontent
    cases hcontent
  have hkept : ∀ path, (Json.setAt fields ["fields"] d).content path = s.toJson.content path := by
    intro path
    rw [Json.content_setAt hroot]
    split
    · next hinside =>
      obtain ⟨rest, rfl⟩ := hinside
      rw [← h, Json.content_append, hfields]
      rfl
    · exact h path
  intro path
  have hregister : Deed.registerIn field type (some d) =
      Json.setAt type.toJson ["fields", field] (Json.setAt fields ["fields"] d) := by
    simp [Deed.registerIn, hfields]
  rw [hregister, Json.content_setAt (hobjects _ hkept), content_toJson_field, hkept]
  rfl

end ClassSchema

namespace Catalog

variable {w : Catalog} {registry className : String} {cast : String → Option Json} {d : Json}

/-- **A field that is added is as one that was declared.**  The texts that create the tables of a
class with the field define the same columns and the same new tables as those of the class without
it and that of the field.  Registering the field in the schema document of the class leaves the
schema document of the class with the field. -/
theorem declares_added (s : ClassSchema) {field : String} (type : FieldType)
    (hid : field ≠ "objectId") (hnew : s.storage.fieldType? field = none)
    (hcast : cast type.toJson.compact = some type.toJson)
    (hd : w.document? registry className = some (some d)) (hsame : d.SameContent s.toJson) :
    (∃ created added declared,
      List.Forall₂ Command.Defines (Command.createTables className s) created ∧
      (Command.addField className field type).Defines added ∧
      List.Forall₂ Command.Defines (Command.createTables className (s.field field type))
        declared ∧
      (Definition.cells declared).Perm (Definition.cells (created ++ [added])) ∧
      (Definition.tables declared).Perm (Definition.tables (created ++ [added]))) ∧
    ∃ text w' d', (Command.registerField registry className field type).render = .ok text ∧
      w.carryOut cast text = (.ok (1, []), w') ∧
      w'.document? registry className = some (some d') ∧
      d'.SameContent (s.field field type).toJson := by
  refine ⟨⟨_, _, _, Command.defines_createTables className s,
    Command.defines_addField className field type,
    Command.defines_createTables className (s.field field type),
    Command.cells_field_perm className hid hnew type,
    Command.tables_field_perm className (s.fieldType?_of_storage hnew) type⟩, ?_⟩
  obtain ⟨text, htext, hact⟩ :=
    (Command.does_registerField registry className field type).exists_carryOut cast
  refine ⟨text, _, _, htext, (hact w).trans (act_registerField hd hcast field),
    document?_withType hd, s.sameContent_registerIn hsame field type⟩

/-- Meetups with guests, which do not say when they were created. -/
def meetupSchema : ClassSchema :=
  ((ClassSchema.named "Meetup").field "guests" (.relation "_User")).field "place" .geoPoint

/-- A registry with meetups. -/
def meetups : Catalog :=
  .ofList [("_SCHEMA", ⟨Command.registryColumns, .ofList [("Meetup", some meetupSchema.toJson)]⟩)]

theorem declares_added_createdAt :
    meetupSchema.storage.fieldType? "createdAt" = none ∧
      meetups.document? "_SCHEMA" "Meetup" = some (some meetupSchema.toJson) ∧
      (∃ created added declared,
        List.Forall₂ Command.Defines (Command.createTables "Meetup" meetupSchema) created ∧
        (Command.addField "Meetup" "createdAt" .date).Defines added ∧
        List.Forall₂ Command.Defines
          (Command.createTables "Meetup" (meetupSchema.field "createdAt" .date)) declared ∧
        (Definition.cells declared).Perm (Definition.cells (created ++ [added])) ∧
        (Definition.tables declared).Perm (Definition.tables (created ++ [added]))) ∧
      ∃ text w' d',
        (Command.registerField "_SCHEMA" "Meetup" "createdAt" .date).render = .ok text ∧
        meetups.carryOut Json.read? text = (.ok (1, []), w') ∧
        w'.document? "_SCHEMA" "Meetup" = some (some d') ∧
        d'.SameContent (meetupSchema.field "createdAt" .date).toJson := by
  have hnew : meetupSchema.storage.fieldType? "createdAt" = none := by decide +kernel
  have hcast : Json.read? FieldType.date.toJson.compact = some FieldType.date.toJson := by
    decide +kernel
  have hd : meetups.document? "_SCHEMA" "Meetup" = some (some meetupSchema.toJson) := rfl
  exact ⟨hnew, hd, declares_added meetupSchema .date (by decide) hnew hcast hd fun _ => rfl⟩

end Catalog

end DocStore
