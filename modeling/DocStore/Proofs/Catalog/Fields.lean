import DocStore.Proofs.Catalog.Deeds
import DocStore.Store.Classes

/-!
# Fields in the catalog

A field has a type in the registry and a place for its values, which is a column of the class table
or, for a relation, a join table of its own.  The registry keeps the type as JSON, from which it is
read back (`FieldType.ofJson?_toJson`, `IsSchema.typeOfRow_field`).

The two are changed one after the other.  Making sure of a place adds what is missing and leaves the
registry alone (`Catalog.withPlace`); registering a type changes nothing else of the registry and no
table (`Catalog.withType`).
-/

namespace DocStore

open Sql

/-! ### Types in the registry -/

theorem FieldType.decode_toJson (nested : Bool) (t : FieldType) :
    decode nested t.toJson = some t := by
  induction t generalizing nested with
  | arrayOf contents ih =>
    have hnull : contents.toJson.isNull = false := by
      obtain ⟨o, ho⟩ := contents.exists_toJson
      rw [ho]
      rfl
    simp [toJson, decode, decodeMember, ih true, hnull, shape?, shapeOfName?]
  | _ => simp [toJson, decode, decodeMember, shape?, shapeOfName?, Json.asString?, List.lookup_cons]

/-- **A type is read back from its JSON form.** -/
theorem FieldType.ofJson?_toJson (t : FieldType) : ofJson? t.toJson = some t :=
  t.decode_toJson false

/-- A schema document whose members `fields` are types; it may be `NULL`, and it may have no
fields. -/
structure IsSchema (document : Option Json) : Prop where
  isObject : ∃ o : Object, document.getD (.obj []) = .obj o
  fields : ∃ fields : Object,
    (document.bind fun d => d.at? ["fields"]).getD (.obj []) = .obj fields ∧
    ∀ name v, fields.get? name = some v → ∃ t : FieldType, v = t.toJson

/-- The type that a schema document holds for a field. -/
def typeIn? (document : Option Json) (field : String) : Option FieldType :=
  (document.bind fun d => d.at? ["fields", field]).bind FieldType.ofJson?

namespace IsSchema

variable {document : Option Json} {fields : Object} {field other : String} {type : FieldType}

/-- A field's member is one of the members `fields`. -/
theorem at?_field (h : IsSchema document)
    (hfields : (document.bind fun d => d.at? ["fields"]).getD (.obj []) = .obj fields)
    (field : String) : (document.bind fun d => d.at? ["fields", field]) = fields.get? field := by
  cases document with
  | none =>
    obtain rfl := Json.obj.inj hfields
    rfl
  | some d =>
    obtain ⟨o, rfl⟩ : ∃ o : Object, d = .obj o := h.isObject
    cases hmember : Object.get? o "fields" with
    | none =>
      obtain rfl : [] = fields := by simpa [Json.at?, hmember] using hfields
      have hempty : Object.get? [] field = none := rfl
      simp [Json.at?, hmember, hempty]
    | some v =>
      obtain rfl : v = .obj fields := by simpa [Json.at?, hmember] using hfields
      simp [Json.at?, hmember]

/-- What the lookup of a field reads is its type. -/
theorem typeOfRow_field (h : IsSchema document) (field column : String) :
    Store.typeOfRow (some [(column, (((document.bind fun d => d.at? ["fields", field]).map
      Value.json).getD .null).toJson)]) = .ok (typeIn? document field) := by
  obtain ⟨fields, hfields, htypes⟩ := h.fields
  rw [typeIn?, h.at?_field hfields]
  cases hmember : fields.get? field with
  | none => rfl
  | some v =>
    obtain ⟨t, rfl⟩ := htypes field v hmember
    obtain ⟨o, ho⟩ := t.exists_toJson
    have hread := t.ofJson?_toJson
    rw [ho] at hread ⊢
    simp [Store.typeOfRow, Store.typeOfJson, Row.first?, Value.toJson, hread, Except.map]

/-- The document with a field registered, member by member. -/
theorem exists_registerIn (h : IsSchema document)
    (hfields : (document.bind fun d => d.at? ["fields"]).getD (.obj []) = .obj fields)
    (field : String) (type : FieldType) :
    ∃ o : Object, Deed.registerIn field type document = .obj o ∧
      o.get? "fields" = some (.obj (fields.insert field type.toJson)) := by
  obtain ⟨o, ho⟩ := h.isObject
  refine ⟨(o.insert "fields" (.obj fields)).insert "fields"
    (.obj (fields.insert field type.toJson)), ?_, Object.get?_insert_self _ _ _⟩
  rw [Deed.registerIn, hfields, ho, Json.setAt_member,
    Json.setAt_of_some (Object.get?_insert_self o "fields" (.obj fields)), Json.setAt_member]

theorem registerIn (h : IsSchema document) (field : String) (type : FieldType) :
    IsSchema (some (Deed.registerIn field type document)) := by
  obtain ⟨fields, hfields, htypes⟩ := h.fields
  obtain ⟨o, ho, hmember⟩ := h.exists_registerIn hfields field type
  rw [ho]
  refine ⟨⟨o, rfl⟩, fields.insert field type.toJson, by simp [Json.at?, hmember], ?_⟩
  intro name v hv
  by_cases hname : name = field
  · subst hname
    rw [Object.get?_insert_self] at hv
    exact ⟨type, (Option.some.inj hv).symm⟩
  · rw [Object.get?_insert_of_ne _ hname] at hv
    exact htypes name v hv

theorem typeIn?_registerIn (h : IsSchema document) (field other : String) (type : FieldType) :
    typeIn? (some (Deed.registerIn field type document)) other =
      if other = field then some type else typeIn? document other := by
  obtain ⟨fields, hfields, -⟩ := h.fields
  obtain ⟨o, ho, hmember⟩ := h.exists_registerIn hfields field type
  rw [typeIn?, typeIn?, h.at?_field hfields, ho]
  by_cases hother : other = field
  · subst hother
    simp [Json.at?, hmember, Object.get?_insert_self, FieldType.ofJson?_toJson]
  · simp [Json.at?, hmember, hother, Object.get?_insert_of_ne _ hother]

end IsSchema

namespace Catalog

variable {w : Catalog} {registry className field : String} {type : FieldType}

/-! ### What is registered -/

/-- The schema document of a registered class. -/
def document? (w : Catalog) (registry className : String) : Option (Option Json) :=
  (w.get? registry).bind fun t => t.schemas.get? className

/-- The type that is registered for a field. -/
def registered? (w : Catalog) (registry className field : String) : Option FieldType :=
  (w.document? registry className).bind fun d => typeIn? d field

/-- A class with a table, and with a row in the registry that holds types. -/
structure Keeps (w : Catalog) (registry className : String) : Prop where
  table : ∃ t, w.get? className = some t
  row : ∃ d, w.document? registry className = some d ∧ IsSchema d

theorem Keeps.exists_registry (h : w.Keeps registry className) : ∃ t, w.get? registry = some t := by
  obtain ⟨d, hd, -⟩ := h.row
  cases ht : w.get? registry with
  | none => simp [document?, ht] at hd
  | some t => exact ⟨t, rfl⟩

/-- When a table is replaced, every table stays as it is or is the one that is replaced. -/
theorem exists_get?_insert {name changed : String} {t u : Table} (ht : w.get? name = some t)
    (hu : w.get? changed = some u) (u' : Table) :
    ∃ t', (w.insert changed u').get? name = some t' ∧ (t' = t ∨ t = u ∧ t' = u') := by
  by_cases hname : name = changed
  · subst hname
    rw [hu] at ht
    exact ⟨u', Dict.get?_insert_self _ _ _, .inr ⟨(Option.some.inj ht).symm, rfl⟩⟩
  · exact ⟨t, by rw [Dict.get?_insert_of_ne _ hname, ht], .inl rfl⟩

/-! ### New tables -/

theorem withTable_eq_self {table : String} {columns : List String}
    (h : ∃ t, w.get? table = some t) : w.withTable table columns = w := by
  obtain ⟨t, ht⟩ := h
  simp [withTable, ht]

/-- A new table has its columns and no rows; the tables that are there stay. -/
theorem get?_withTable (w : Catalog) (table name : String) (columns : List String) :
    (w.withTable table columns).get? name =
      (w.get? name).or (if name = table then some ⟨columns, .empty⟩ else none) := by
  unfold withTable
  cases htable : w.get? table with
  | some t =>
    by_cases hname : name = table
    · subst hname
      simp [htable]
    · simp [hname]
  | none =>
    by_cases hname : name = table
    · subst hname
      simp [htable, Dict.get?_insert_self]
    · simp [hname, Dict.get?_insert_of_ne _ hname]

theorem get?_withTable_of_some {name : String} {t : Table} (table : String) (columns : List String)
    (ht : w.get? name = some t) : (w.withTable table columns).get? name = some t := by
  rw [get?_withTable, ht, Option.some_or]

theorem exists_get?_withTable (w : Catalog) (table : String) (columns : List String) :
    ∃ t, (w.withTable table columns).get? table = some t := by
  rw [get?_withTable]
  cases w.get? table with
  | some t => exact ⟨t, rfl⟩
  | none => exact ⟨_, by rw [if_pos rfl, Option.none_or]⟩

/-! ### What holds the values of a field -/

/-- The column or the join table of a field is there. -/
def HasPlace (w : Catalog) (className field : String) (type : FieldType) : Prop :=
  if type.isRelation then ∃ t, w.get? (Names.joinTable className field) = some t
  else ∃ t, w.get? className = some t ∧ field ∈ t.columns

/-- What is asked to make sure of the column or the join table of a field. -/
def placeDeed (className field : String) (type : FieldType) : Deed :=
  if type.isRelation then .createTable (Names.joinTable className field) Command.joinColumns
  else .addColumn className field

/-- The catalog with the column or the join table of a field, which is added if it is missing. -/
def withPlace (w : Catalog) (className field : String) (type : FieldType) : Catalog :=
  if type.isRelation then w.withTable (Names.joinTable className field) Command.joinColumns
  else
    match w.get? className with
    | none => w
    | some t =>
      if field ∈ t.columns then w
      else w.insert className { t with columns := t.columns ++ [field] }

theorem does_addField (className field : String) (type : FieldType) :
    (Command.addField className field type).Does (placeDeed className field type) := by
  unfold Command.addField placeDeed
  split
  · exact Command.does_createJoinTable _
  · exact Command.does_addColumn _ _ _

variable {cast : String → Option Json}

theorem act_placeDeed (cast : String → Option Json) (w : Catalog) (className field : String)
    (type : FieldType) :
    ((placeDeed className field type).act cast w).2 = w.withPlace className field type := by
  unfold placeDeed withPlace
  split
  · rfl
  · simp only [Deed.act]
    cases w.get? className with
    | none => rfl
    | some t =>
      dsimp only
      split <;> rfl

/-- A column that is there does no harm. -/
theorem resolve_placeDeed (cast : String → Option Json) (h : ∃ t, w.get? className = some t)
    (field : String) (type : FieldType) :
    ∃ n, Attempt.addField.resolve className
      (((placeDeed className field type).act cast w).1.map Prod.fst) = .ok n := by
  obtain ⟨t, ht⟩ := h
  unfold placeDeed
  split
  · exact ⟨_, rfl⟩
  · simp only [Deed.act, ht]
    split
    · exact ⟨none, rfl⟩
    · exact ⟨_, rfl⟩

theorem withPlace_eq_self (h : w.HasPlace className field type) :
    w.withPlace className field type = w := by
  unfold HasPlace at h
  unfold withPlace
  split at h
  · next hrelation =>
    rw [if_pos hrelation, withTable_eq_self h]
  · next hrelation =>
    obtain ⟨t, ht, hfield⟩ := h
    simp [hrelation, ht, hfield]

theorem hasPlace_withPlace (h : ∃ t, w.get? className = some t) :
    (w.withPlace className field type).HasPlace className field type := by
  obtain ⟨t, ht⟩ := h
  unfold HasPlace withPlace
  split
  · exact exists_get?_withTable w _ _
  · rw [ht]
    dsimp only
    split
    · next hfield => exact ⟨t, ht, hfield⟩
    · exact ⟨_, Dict.get?_insert_self _ _ _, by simp⟩

/-- A table stays, and may get a column. -/
theorem get?_withPlace {name : String} {t : Table} (ht : w.get? name = some t) :
    ∃ t', (w.withPlace className field type).get? name = some t' ∧ t'.schemas = t.schemas := by
  unfold withPlace
  split
  · exact ⟨t, get?_withTable_of_some _ _ ht, rfl⟩
  · cases hclass : w.get? className with
    | none => exact ⟨t, ht, rfl⟩
    | some u =>
      dsimp only
      split
      · exact ⟨t, ht, rfl⟩
      · obtain ⟨t', ht', rfl | ⟨rfl, rfl⟩⟩ := exists_get?_insert ht hclass
          { u with columns := u.columns ++ [field] }
        · exact ⟨t', ht', rfl⟩
        · exact ⟨_, ht', rfl⟩

theorem exists_get?_withPlace {name : String} (h : ∃ t, w.get? name = some t) :
    ∃ t, (w.withPlace className field type).get? name = some t := by
  obtain ⟨t, ht⟩ := h
  obtain ⟨t', ht', -⟩ := get?_withPlace ht
  exact ⟨t', ht'⟩

theorem document?_withPlace {owner : String} (h : ∃ t, w.get? registry = some t) :
    (w.withPlace className field type).document? registry owner = w.document? registry owner := by
  obtain ⟨t, ht⟩ := h
  obtain ⟨t', ht', hschemas⟩ := get?_withPlace ht
  rw [document?, document?, ht', ht, Option.bind_some, Option.bind_some, hschemas]

theorem Keeps.withPlace (h : w.Keeps registry className) (field : String) (type : FieldType) :
    (w.withPlace className field type).Keeps registry className where
  table := exists_get?_withPlace h.table
  row := by
    rw [document?_withPlace h.exists_registry]
    exact h.row

/-! ### Registering -/

/-- The catalog with a field registered. -/
def withType (w : Catalog) (registry className field : String) (type : FieldType) : Catalog :=
  match w.get? registry with
  | none => w
  | some t =>
    match t.schemas.get? className with
    | none => w
    | some d =>
      w.insert registry
        { t with schemas := t.schemas.insert className (some (Deed.registerIn field type d)) }

theorem act_registerField {d : Option Json} (hd : w.document? registry className = some d)
    (hcast : cast type.toJson.compact = some type.toJson) (field : String) :
    (Deed.setSchema registry className (Command.registerTokens field type)).act cast w =
      (.ok (1, []), w.withType registry className field type) := by
  obtain ⟨t, ht, hrow⟩ := Option.bind_eq_some_iff.1 hd
  have hvalue : Deed.value? cast d (Command.registerTokens field type) =
      some (.json (Deed.registerIn field type d)) := (Deed.gives_registerField hcast).value?
  simp only [Deed.act, withType, ht, hrow, hvalue]

/-- Columns and tables are as before. -/
theorem get?_withType {name : String} {t : Table} (ht : w.get? name = some t) :
    ∃ t', (w.withType registry className field type).get? name = some t' ∧
      t'.columns = t.columns := by
  unfold withType
  cases hregistry : w.get? registry with
  | none => exact ⟨t, ht, rfl⟩
  | some u =>
    cases hrow : u.schemas.get? className with
    | none => exact ⟨t, by simpa [hrow] using ht, rfl⟩
    | some d =>
      simp only [hrow]
      obtain ⟨t', ht', rfl | ⟨rfl, rfl⟩⟩ := exists_get?_insert ht hregistry
        { u with schemas := u.schemas.insert className (some (Deed.registerIn field type d)) }
      · exact ⟨t', ht', rfl⟩
      · exact ⟨_, ht', rfl⟩

theorem document?_withType {d : Option Json} (hd : w.document? registry className = some d) :
    (w.withType registry className field type).document? registry className =
      some (some (Deed.registerIn field type d)) := by
  unfold withType
  unfold document? at hd ⊢
  cases ht : w.get? registry with
  | none => simp [ht] at hd
  | some t =>
    have hrow : t.schemas.get? className = some d := by simpa [ht] using hd
    simp [hrow, Dict.get?_insert_self]

theorem Keeps.withType (h : w.Keeps registry className) (field : String) (type : FieldType) :
    (w.withType registry className field type).Keeps registry className where
  table := by
    obtain ⟨t, ht⟩ := h.table
    obtain ⟨t', ht', -⟩ := get?_withType ht
    exact ⟨t', ht'⟩
  row := by
    obtain ⟨d, hd, hschema⟩ := h.row
    exact ⟨_, document?_withType hd, hschema.registerIn field type⟩

theorem registered?_withType (h : w.Keeps registry className) (field other : String)
    (type : FieldType) :
    (w.withType registry className field type).registered? registry className other =
      if other = field then some type else w.registered? registry className other := by
  obtain ⟨d, hd, hschema⟩ := h.row
  rw [registered?, registered?, document?_withType hd, hd, Option.bind_some, Option.bind_some]
  exact hschema.typeIn?_registerIn field other type

theorem HasPlace.withType (h : w.HasPlace className field type) (registry owner other : String)
    (t : FieldType) : (w.withType registry owner other t).HasPlace className field type := by
  unfold HasPlace at h ⊢
  split at h
  · obtain ⟨u, hu⟩ := h
    obtain ⟨u', hu', -⟩ := get?_withType hu
    rw [if_pos ‹_›]
    exact ⟨u', hu'⟩
  · obtain ⟨u, hu, hcolumn⟩ := h
    obtain ⟨u', hu', hcolumns⟩ := get?_withType hu
    rw [if_neg ‹_›]
    exact ⟨u', hu', hcolumns ▸ hcolumn⟩

end Catalog

end DocStore
