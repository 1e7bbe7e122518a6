import DocStore.Proofs.Calendar.Texts
import DocStore.Proofs.Document.Keys
import DocStore.Row.Decoding
import DocStore.Row.Encoding
import Mathlib.Data.List.Forall2

/-!
# Documents are read back from their rows

A value is *canonical* for a field if it has the form in which documents hold values of the field's
type (`Row.Canonical`).  A canonical value becomes the value of a column, and that of the column
becomes the same value again (`Row.holds_of_canonical`).

A document of canonical values is therefore read back from its row, together with a wrapper for each
relation field (`Row.decode_stored`).  Points stand at the end of a row and wrappers are put
together anew, so the order of entries may differ.
-/

namespace DocStore

open Sql

/-! ### Rows as the engine gives them -/

/-- The value of a column that was written with a parameter.  Truth values are numbers, and names
and raw fragments are not values. -/
def Sql.Param.stored : Param → Json
  | .value (.bool b) => .ofInt (if b then 1 else 0)
  | .value v | .json v => v
  | .ident _ | .raw _ => .null

namespace EncodedRow

/-- The value of a point column: its coordinates, of which `x` is the longitude. -/
def storedPoint (p : GeoPoint) : Json :=
  .obj [("x", .ofFloat p.longitude), ("y", .ofFloat p.latitude)]

/-- The value of the column that a field becomes. -/
def Cell.stored? : Cell → Option Json
  | .skip => none
  | .value p => some p.stored
  | .point p => some (storedPoint p)

/-- The row that the engine gives for an inserted row. -/
def stored (row : EncodedRow) : Row :=
  row.values.map (fun e => (e.1, e.2.stored)) ++ row.points.map fun e => (e.1, storedPoint e.2)

end EncodedRow

/-! ### Canonical values -/

/-- The value is an object with these entries, in any order. -/
def Json.HasEntries (v : Json) (entries : Object) : Prop := ∃ es, v = .obj es ∧ es.Perm entries

/-- The same value, except that the entries of an object may have another order. -/
def Json.Alike (v w : Json) : Prop := v = w ∨ ∃ es fs, v = .obj es ∧ w = .obj fs ∧ es.Perm fs

namespace Row

/-- The two dates that every document has as bare texts. -/
def isBareDate (field : String) : Prop := field = "createdAt" ∨ field = "updatedAt"

/-- The form in which documents hold the values of a type.  Relations are no values. -/
def Canonical (field : String) (v : Json) : FieldType → Prop
  | .string => ∃ s, v = .str s
  | .number => ∃ n, v = .num n
  | .boolean => ∃ b, v = .bool b
  | .object => (∃ entries, v = .obj entries) ∧ v.IsPlain
  | .array | .arrayOf _ => (∃ items, v = .arr items) ∧ v.IsPlain
  | .bytes => v.typeTag? = some "Bytes" ∧ v.IsPlain
  | .file => ∃ name, v.HasEntries [("__type", .str "File"), ("name", .str name)]
  | .geoPoint => ∃ p : GeoPoint, p.latitude.isFinite = true ∧ p.longitude.isFinite = true ∧
      v.HasEntries [("__type", .str "GeoPoint"), ("latitude", .num (.float p.latitude)),
        ("longitude", .num (.float p.longitude))]
  | .pointer target => ∃ id, v.HasEntries
      [("__type", .str "Pointer"), ("className", .str target), ("objectId", .str id)]
  | .date => ∃ t : Timestamp, t.IsCommon ∧ t.nano % 1000000 = 0 ∧
      ((isBareDate field ∧ v = .str t.isoText) ∨
        (¬ isBareDate field ∧ v.HasEntries [("__type", .str "Date"), ("iso", .str t.isoText)]))
  | .relation _ => False

end Row

namespace Json

variable {v : Json} {entries : Object} {key : String}

theorem Alike.refl (v : Json) : v.Alike v := .inl rfl

theorem HasEntries.get? (h : v.HasEntries entries) (hkeys : (Object.keys entries).Nodup)
    (key : String) : v.get? key = entries.lookup key := by
  obtain ⟨es, rfl, hperm⟩ := h
  exact Object.get?_perm hperm hkeys key

theorem HasEntries.alike (h : v.HasEntries entries) : Alike (.obj entries) v := by
  obtain ⟨es, rfl, hperm⟩ := h
  exact .inr ⟨entries, es, rfl, rfl, hperm.symm⟩

/-- Wrappers hold no keys but their own. -/
theorem HasEntries.isPlain (h : v.HasEntries entries)
    (hplain : ∀ e ∈ entries, Key.isReserved e.1 = false ∧ e.2.allKeys = []) : v.IsPlain := by
  obtain ⟨es, rfl, hperm⟩ := h
  refine isPlain_obj.2 fun e he => ?_
  obtain ⟨hkey, hnone⟩ := hplain e (hperm.mem_iff.1 he)
  exact ⟨hkey, fun k hk => by simp [hnone] at hk⟩

end Json

/-! ### Columns -/

namespace Row

variable {now field : String} {type : FieldType} {v : Json}

/-- What a column of a type holds stands for a value. -/
def Holds (field : String) (type : FieldType) (v : Json) (cell : EncodedRow.Cell) : Prop :=
  ∃ raw w, cell.stored? = some raw ∧ raw.isNull = false ∧ decodeCell field type raw = some w ∧
    w.Alike v

theorem typeTag?_of_hasEntries {tag : String} {rest : Object}
    (h : v.HasEntries (("__type", .str tag) :: rest))
    (hkeys : (Object.keys (("__type", .str tag) :: rest)).Nodup) : v.typeTag? = some tag := by
  rw [Json.typeTag?, h.get? hkeys, List.lookup_cons_self]
  rfl

theorem holds_file {name : String}
    (h : v.HasEntries [("__type", .str "File"), ("name", .str name)]) :
    ∃ cell, EncodedRow.encodeCell now field .file v = .ok cell ∧ Holds field .file v cell := by
  have hname : Document.fileName? v = some name := by
    rw [Document.fileName?, h.get? (by simp [Object.keys])]
    rfl
  refine ⟨.value (.text name), ?_, .str name, _, rfl, rfl, rfl, h.alike⟩
  simp only [EncodedRow.encodeCell, hname]

theorem holds_pointer {target id : String} (h : v.HasEntries
    [("__type", .str "Pointer"), ("className", .str target), ("objectId", .str id)]) :
    ∃ cell, EncodedRow.encodeCell now field (.pointer target) v = .ok cell ∧
      Holds field (.pointer target) v cell := by
  have hid : Document.pointerId? v = some id := by
    rw [Document.pointerId?, if_pos (typeTag?_of_hasEntries h (by simp [Object.keys])),
      h.get? (by simp [Object.keys])]
    rfl
  refine ⟨.value (.text id), ?_, .str id, _, rfl, rfl, rfl, h.alike⟩
  simp only [EncodedRow.encodeCell, hid]

theorem holds_geoPoint {p : GeoPoint} (hlatitude : p.latitude.isFinite = true)
    (hlongitude : p.longitude.isFinite = true)
    (h : v.HasEntries [("__type", .str "GeoPoint"), ("latitude", .num (.float p.latitude)),
      ("longitude", .num (.float p.longitude))]) :
    ∃ cell, EncodedRow.encodeCell now field .geoPoint v = .ok cell ∧
      Holds field .geoPoint v cell := by
  have hpoint : GeoPoint.ofJson? v = some p := by
    rw [GeoPoint.ofJson?, h.get? (by simp [Object.keys]), h.get? (by simp [Object.keys])]
    rfl
  have hdecoded : decodePoint (EncodedRow.storedPoint p) = p.toJson := by
    simp only [EncodedRow.storedPoint, Json.ofFloat, if_pos hlatitude, if_pos hlongitude]
    rfl
  have htoJson : p.toJson = .obj [("__type", .str "GeoPoint"),
      ("latitude", .num (.float p.latitude)), ("longitude", .num (.float p.longitude))] := by
    simp only [GeoPoint.toJson, Json.ofFloat, if_pos hlatitude, if_pos hlongitude]
  refine ⟨.point p, ?_, _, p.toJson, rfl, rfl, congrArg some hdecoded, ?_⟩
  · simp only [EncodedRow.encodeCell, hpoint]
  · rw [htoJson]
    exact h.alike

/-- A date to the millisecond is read back from both of its texts. -/
theorem read?_texts {t : Timestamp} (ht : t.IsCommon) (hmillis : t.nano % 1000000 = 0) :
    Timestamp.read? t.isoText = some t ∧ Timestamp.read? t.engineText = some t := by
  have hiso : t.cut 3 = t := Timestamp.cut_eq_self (by omega)
  have hengine : t.cut 6 = t := Timestamp.cut_eq_self (by omega)
  exact ⟨by rw [Timestamp.read?_isoText ht, hiso],
    by rw [Timestamp.read?_engineText ht.isRegular, hengine]⟩

theorem holds_date {t : Timestamp} (ht : t.IsCommon) (hmillis : t.nano % 1000000 = 0)
    (h : (isBareDate field ∧ v = .str t.isoText) ∨
      (¬ isBareDate field ∧ v.HasEntries [("__type", .str "Date"), ("iso", .str t.isoText)])) :
    ∃ cell, EncodedRow.encodeCell now field .date v = .ok cell ∧ Holds field .date v cell := by
  obtain ⟨hiso, hengine⟩ := read?_texts ht hmillis
  -- the column holds the same text whether the date is bare or in a wrapper
  have hencoded : EncodedRow.encodeDate now field v = .ok (.text t.engineText) := by
    rcases h with ⟨-, rfl⟩ | ⟨hfield, h⟩
    · have htag : (Json.str t.isoText).typeTag? = none := rfl
      simp [EncodedRow.encodeDate, htag, Document.dateText?, hiso, Except.map]
    · have htag := typeTag?_of_hasEntries h (by simp [Object.keys])
      have hget : v.get? "iso" = some (.str t.isoText) := by
        rw [h.get? (by simp [Object.keys])]
        rfl
      obtain ⟨es, rfl, -⟩ := h
      simp [EncodedRow.encodeDate, Document.dateText?, htag, hget, hiso, Except.map, Json.asString?]
  have hraw : ((Json.str t.engineText).asString?).bind Timestamp.read? = some t := hengine
  refine ⟨.value (.text t.engineText), ?_, ?_⟩
  · rw [EncodedRow.encodeCell, hencoded]
    rfl
  · rcases h with ⟨hfield, rfl⟩ | ⟨hfield, h⟩
    · have hdecoded : decodeDate field (.str t.engineText) = .str t.isoText := by
        simp only [decodeDate, hraw]
        exact if_pos hfield
      exact ⟨_, _, rfl, rfl, congrArg some hdecoded, .refl _⟩
    · have hdecoded : decodeDate field (.str t.engineText) = Document.dateWrapper t := by
        simp only [decodeDate, hraw]
        exact if_neg hfield
      exact ⟨_, _, rfl, rfl, congrArg some hdecoded, h.alike⟩

/-- **A canonical value is the value of its column.** -/
theorem holds_of_canonical (now : String) (h : Canonical field v type) :
    ∃ cell, EncodedRow.encodeCell now field type v = .ok cell ∧ Holds field type v cell := by
  cases type with
  | string =>
    obtain ⟨s, rfl⟩ := h
    exact ⟨_, rfl, .str s, _, rfl, rfl, rfl, .refl _⟩
  | number =>
    obtain ⟨n, rfl⟩ := h
    exact ⟨_, rfl, .num n, _, rfl, rfl, rfl, .refl _⟩
  | boolean =>
    obtain ⟨b, rfl⟩ := h
    refine ⟨_, rfl, .ofInt (if b then 1 else 0), .bool b, rfl, rfl, ?_, .refl _⟩
    cases b <;> rfl
  | date =>
    obtain ⟨t, ht, hmillis, h⟩ := h
    exact holds_date ht hmillis h
  | object =>
    obtain ⟨⟨entries, rfl⟩, -⟩ := h
    exact ⟨_, rfl, .obj entries, _, rfl, rfl, rfl, .refl _⟩
  | array | arrayOf contents =>
    obtain ⟨⟨items, rfl⟩, -⟩ := h
    exact ⟨_, rfl, .arr items, _, rfl, rfl, rfl, .refl _⟩
  | bytes =>
    obtain ⟨htag, -⟩ := h
    cases v with
    | obj entries => exact ⟨_, rfl, .obj entries, _, rfl, rfl, rfl, .refl _⟩
    | null | bool b | num n | str s | arr items => cases htag
  | file =>
    obtain ⟨name, h⟩ := h
    exact holds_file h
  | geoPoint =>
    obtain ⟨p, hlatitude, hlongitude, h⟩ := h
    exact holds_geoPoint hlatitude hlongitude h
  | pointer target =>
    obtain ⟨id, h⟩ := h
    exact holds_pointer h
  | relation target => exact h.elim

theorem not_isNull_of_canonical (h : Canonical field v type) : v.isNull = false := by
  cases v with
  | null =>
    cases type <;> simp [Canonical, Json.HasEntries, Json.typeTag?, Json.get?] at h
  | bool b | num n | str s | arr items | obj entries => rfl

theorem isPlain_of_canonical (h : Canonical field v type) : v.IsPlain := by
  cases type with
  | string | number | boolean =>
    obtain ⟨_, rfl⟩ := h
    simp [Json.IsPlain, Json.allKeys]
  | date =>
    obtain ⟨t, -, -, ⟨-, rfl⟩ | ⟨-, h⟩⟩ := h
    · simp [Json.IsPlain, Json.allKeys]
    · exact h.isPlain (by simp [Json.allKeys]; decide)
  | object | array | arrayOf contents | bytes => exact h.2
  | file | pointer target =>
    obtain ⟨_, h⟩ := h
    exact h.isPlain (by simp [Json.allKeys]; decide)
  | geoPoint =>
    obtain ⟨p, -, -, h⟩ := h
    exact h.isPlain (by simp [Json.allKeys]; decide)
  | relation target => exact h.elim

/-! ### Documents -/

/-- The document holds canonical values of fields that have columns, under keys that are neither
paths nor names of authentication providers. -/
structure IsCanonical (schema : ClassSchema) (doc : Object) : Prop where
  distinct : doc.keys.Nodup
  undotted : ∀ e ∈ doc, '.' ∉ e.1.toList
  ordinary : ∀ e ∈ doc, Key.provider? e.1 = none
  canonical : ∀ e ∈ doc, ∃ type, schema.storage.fieldType? e.1 = some type ∧ Canonical e.1 e.2 type

/-- The wrapper of a field that is a relation. -/
def relationWrapper? : String × FieldType → Option (String × Json)
  | (name, .relation target) =>
    some (name, .obj [("__type", .str "Relation"), ("className", .str target)])
  | _ => none

/-- One wrapper for each relation field of a schema. -/
def relationWrappers (schema : ClassSchema) : Object :=
  schema.fields.entries.filterMap relationWrapper?

/-- The column stands for the entry. -/
def Stands (storage : ClassSchema) (raw e : String × Json) : Prop :=
  raw.1 = e.1 ∧ raw.2.isNull = false ∧ ∃ type w, storage.fieldType? e.1 = some type ∧
    decodeCell e.1 type raw.2 = some w ∧ w.Alike e.2

/-- The entry that a column stands for. -/
def decoded (storage : ClassSchema) (raw : String × Json) : String × Json :=
  (raw.1, ((storage.fieldType? raw.1).bind fun type => decodeCell raw.1 type raw.2).getD .null)

/-- The same entry, except for the order inside an object. -/
def Same (e f : String × Json) : Prop := e.1 = f.1 ∧ e.2.Alike f.2

/-- The document becomes a row, and this row becomes the document's entries and the given wrappers
again. -/
def RoundTrips (now : String) (schema : ClassSchema) (doc wrappers : Object) : Prop :=
  ∃ row, EncodedRow.ofObject now schema doc = .ok row ∧
    ∃ entries, (decode schema row.stored).Perm entries ∧
      List.Forall₂ Same entries (doc ++ wrappers)

variable {schema storage : ClassSchema} {doc : Object}

/-- The fields of canonical values become columns that stand for them. -/
theorem stands_of_canonical (now : String)
    (h : ∀ e ∈ doc, ∃ type, storage.fieldType? e.1 = some type ∧ Canonical e.1 e.2 type) :
    ∃ row raws, EncodedRow.encodeFields now storage doc = .ok row ∧ row.stored.Perm raws ∧
      List.Forall₂ (Stands storage) raws doc := by
  induction doc with
  | nil => exact ⟨_, [], rfl, .nil, .nil⟩
  | cons e rest ih =>
    obtain ⟨field, v⟩ := e
    obtain ⟨type, htype, hcanonical⟩ := h _ List.mem_cons_self
    obtain ⟨row, raws, hrow, hperm, hstands⟩ := ih fun f hf => h f (List.mem_cons_of_mem _ hf)
    obtain ⟨cell, hcell, raw, w, hraw, hnull, hdecoded, halike⟩ :=
      holds_of_canonical now hcanonical
    have hstand : Stands storage (field, raw) (field, v) :=
      ⟨rfl, hnull, type, w, htype, hdecoded, halike⟩
    have hnotNull : v.isNull = false := not_isNull_of_canonical hcanonical
    have hfields : EncodedRow.encodeFields now storage ((field, v) :: rest) =
        match cell with
        | .skip => .ok row
        | .value p => .ok { row with values := (field, p) :: row.values }
        | .point p => .ok { row with points := (field, p) :: row.points } := by
      rw [EncodedRow.encodeFields, if_neg (by simp [hnotNull])]
      simp only [htype, orFault, bind, Except.bind, hcell, hrow]
      cases cell <;> rfl
    cases cell with
    | skip => cases hraw
    | value p =>
      cases hraw
      exact ⟨_, (field, p.stored) :: raws, hfields, .cons _ hperm, .cons hstand hstands⟩
    | point p =>
      cases hraw
      -- the points of a row go behind its other columns
      refine ⟨_, (field, EncodedRow.storedPoint p) :: raws, hfields, ?_, .cons hstand hstands⟩
      exact List.perm_middle.trans (.cons _ hperm)

theorem decodeColumn_of_stands {raw e : String × Json} (h : Stands storage raw e)
    {before : Object} (hnew : raw.1 ∉ before.keys) :
    decodeColumn storage before raw = before ++ [decoded storage raw] := by
  obtain ⟨hkey, hnull, type, w, htype, hdecoded, -⟩ := h
  rw [← hkey] at htype hdecoded
  have hentry : decoded storage raw = (raw.1, w) := by simp [decoded, htype, hdecoded]
  rw [decodeColumn, if_neg (by simp [hnull]), hentry, ← Object.insert_of_not_mem hnew]
  simp only [htype, hdecoded]

/-- Columns that stand for entries give these entries in the order of the columns. -/
theorem foldl_decodeColumn {raws : Row} (h : ∀ raw ∈ raws, ∃ e, Stands storage raw e)
    (before : Object) (hdistinct : (before ++ raws).keys.Nodup) :
    raws.foldl (decodeColumn storage) before = before ++ raws.map (decoded storage) := by
  induction raws generalizing before with
  | nil => simp
  | cons raw rest ih =>
    obtain ⟨e, he⟩ := h raw List.mem_cons_self
    have hkeys : before.keys ++ raw.1 :: Object.keys rest = (before ++ raw :: rest).keys := by
      simp [Object.keys]
    have hnew : raw.1 ∉ before.keys := by
      rw [← hkeys] at hdistinct
      exact fun hmem => List.disjoint_of_nodup_append hdistinct hmem List.mem_cons_self
    have hdecoded :
        (before ++ [decoded storage raw] ++ rest).keys = (before ++ raw :: rest).keys := by
      simp [Object.keys, decoded]
    rw [List.foldl_cons, decodeColumn_of_stands he hnew,
      ih (fun r hr => h r (List.mem_cons_of_mem _ hr)) _ (hdecoded ▸ hdistinct)]
    simp

/-- The wrappers of relation fields go to the end. -/
theorem foldl_decodeRelation {fields : List (String × FieldType)}
    (hfields : (fields.map Prod.fst).Nodup) (before : Object)
    (hnew : ∀ f ∈ fields, f.2.isRelation = true → f.1 ∉ before.keys) :
    fields.foldl decodeRelation before = before ++ fields.filterMap relationWrapper? := by
  induction fields generalizing before with
  | nil => simp
  | cons f rest ih =>
    obtain ⟨name, type⟩ := f
    obtain ⟨hname, hrest⟩ := List.nodup_cons.1 hfields
    have hlater := fun f hf => hnew f (List.mem_cons_of_mem _ hf)
    cases type with
    | relation target =>
      have habsent : name ∉ before.keys := hnew _ List.mem_cons_self rfl
      -- the names of fields are distinct, so a wrapper stands in the way of no other
      have hlast : ∀ f ∈ rest, f.2.isRelation = true →
          f.1 ∉ Object.keys (before ++ [(name, .obj [("__type", .str "Relation"),
            ("className", .str target)])]) := by
        intro f hf hrelation hmem
        rw [Object.keys, List.map_append, List.mem_append] at hmem
        rcases hmem with hmem | hmem
        · exact hlater f hf hrelation hmem
        · rw [List.map_singleton, List.mem_singleton] at hmem
          exact hname (hmem ▸ List.mem_map.2 ⟨f, hf, rfl⟩)
      have hstep : decodeRelation before (name, .relation target) =
          before ++ [(name, .obj [("__type", .str "Relation"), ("className", .str target)])] :=
        Object.insert_of_not_mem habsent _
      rw [List.foldl_cons, hstep, ih hrest _ hlast]
      simp [relationWrapper?]
    | _ =>
      rw [List.foldl_cons, List.filterMap_cons]
      exact ih hrest before hlater

theorem ofObject_of_canonical (now : String) (h : IsCanonical schema doc)
    (hdollar : ∀ e ∈ doc, '$' ∉ e.1.toList) :
    EncodedRow.ofObject now schema doc = EncodedRow.encodeFields now schema.storage doc := by
  have hplain : (Json.obj doc).IsPlain := by
    refine Json.isPlain_obj.2 fun e he => ?_
    obtain ⟨type, -, hcanonical⟩ := h.canonical e he
    exact ⟨Key.isReserved_eq_false_iff.2 ⟨hdollar e he, h.undotted e he⟩,
      isPlain_of_canonical hcanonical⟩
  have hcheck : Document.checkKeys (.obj doc) = .ok () :=
    (Document.checkKeys_eq_ok_iff _).2 hplain
  simp only [EncodedRow.ofObject, Document.expand_eq_self h.distinct h.undotted, hcheck,
    Document.foldAuthData_eq_self h.ordinary]
  rfl

theorem keys_of_stands {raws : Row} (h : List.Forall₂ (Stands storage) raws doc) :
    Object.keys raws = doc.keys := by
  induction h with
  | nil => rfl
  | cons hstand _ ih => exact congrArg₂ List.cons hstand.1 ih

theorem exists_of_stands {raws : Row} (h : List.Forall₂ (Stands storage) raws doc)
    {raw : String × Json} (hraw : raw ∈ raws) : ∃ e, Stands storage raw e := by
  induction h with
  | nil => cases hraw
  | cons hstand _ ih =>
    rcases List.mem_cons.1 hraw with rfl | hraw
    · exact ⟨_, hstand⟩
    · exact ih hraw

theorem same_of_stands {raw e : String × Json} (h : Stands storage raw e) :
    Same (decoded storage raw) e := by
  obtain ⟨hkey, -, type, w, htype, hdecoded, halike⟩ := h
  rw [← hkey] at htype hdecoded
  refine ⟨hkey, ?_⟩
  simpa [decoded, htype, hdecoded] using halike

/-- No canonical value stands under the name of a relation. -/
theorem not_mem_keys_of_isRelation (h : IsCanonical schema doc) {f : String × FieldType}
    (hf : f ∈ schema.storage.fields.entries) (hrelation : f.2.isRelation = true) :
    f.1 ∉ doc.keys := by
  intro hmem
  obtain ⟨e, he, hname⟩ := List.mem_map.1 hmem
  obtain ⟨type, htype, hcanonical⟩ := h.canonical e he
  have hlookup : schema.storage.fieldType? f.1 = some f.2 :=
    (lookup_eq_some_iff schema.storage.fields.nodup_keys).2 hf
  rw [hname, hlookup] at htype
  cases htype
  cases hcase : f.2 with
  | relation target =>
    rw [hcase] at hcanonical
    exact hcanonical
  | _ =>
    rw [hcase] at hrelation
    cases hrelation

/-- **A canonical document is read back from its row.**  What is read are its entries and one
wrapper for each relation field, and nothing else. -/
theorem decode_stored (now : String) (h : IsCanonical schema doc)
    (hdollar : ∀ e ∈ doc, '$' ∉ e.1.toList) :
    RoundTrips now schema doc (relationWrappers schema.storage) := by
  obtain ⟨row, raws, hrow, hperm, hstands⟩ := stands_of_canonical now h.canonical
  -- the columns of the row are those of the document in another order
  have hkeys : (Object.keys row.stored).Perm doc.keys :=
    keys_of_stands hstands ▸ hperm.map Prod.fst
  have hcolumns : row.stored.foldl (decodeColumn schema.storage) [] =
      row.stored.map (decoded schema.storage) :=
    foldl_decodeColumn (fun raw hraw => exists_of_stands hstands (hperm.mem_iff.1 hraw)) []
      (hkeys.nodup_iff.2 h.distinct)
  have hdecoded : Object.keys (row.stored.map (decoded schema.storage)) = row.stored.keys := by
    simp [Object.keys, decoded]
  have hnew : ∀ f ∈ schema.storage.fields.entries, f.2.isRelation = true →
      f.1 ∉ Object.keys (row.stored.map (decoded schema.storage)) := by
    intro f hf hrelation hmem
    rw [hdecoded] at hmem
    exact not_mem_keys_of_isRelation h hf hrelation (hkeys.mem_iff.1 hmem)
  refine ⟨row, (ofObject_of_canonical now h hdollar).trans hrow,
    raws.map (decoded schema.storage) ++ relationWrappers schema.storage, ?_, ?_⟩
  · rw [decode, hcolumns, foldl_decodeRelation schema.storage.fields.nodup_keys _ hnew]
    exact (hperm.map _).append_right _
  · refine List.rel_append ?_ (List.forall₂_same.2 fun e _ => ⟨rfl, .refl _⟩)
    exact List.forall₂_map_left_iff.2 (hstands.imp fun raw e => same_of_stands)

/-- A class of places, and a document with a value of most types. -/
def placeSchema : ClassSchema :=
  (((((((ClassSchema.named "Place").field "createdAt" .date).field "due" .date).field "fans"
    (.relation "_User")).field "open" .boolean).field "owner" (.pointer "_User")).field "photo"
    .file).field "spot" .geoPoint

def placeDocument : Object :=
  [("createdAt", .str "2024-02-29T23:59:60.007Z"), ("open", .bool true),
    ("spot", .obj [("__type", .str "GeoPoint"), ("latitude", .num (.float ⟨0x3FF8000000000000⟩)),
      ("longitude", .num (.float ⟨0x8000000000000000⟩))]),
    ("due", .obj [("iso", .str "0000-01-01T00:00:00.000Z"), ("__type", .str "Date")]),
    ("owner", .obj [("__type", .str "Pointer"), ("className", .str "_User"),
      ("objectId", .str "u9")]),
    ("photo", .obj [("name", .str "a.png"), ("__type", .str "File")])]

theorem isCanonical_placeDocument : IsCanonical placeSchema placeDocument where
  distinct := by decide +kernel
  undotted := by decide +kernel
  ordinary := by decide +kernel
  canonical := by
    have hswap : ∀ e f : String × Json, [e, f].Perm [f, e] := fun e f => .swap f e []
    simp only [placeDocument, List.forall_mem_cons]
    refine ⟨⟨.date, by rfl, ⟨⟨2024, 2, 29⟩, 23, 59, 60, 7000000⟩, ?_, by decide,
        .inl ⟨.inl rfl, ?_⟩⟩,
      ⟨.boolean, by rfl, true, rfl⟩,
      ⟨.geoPoint, by rfl, ⟨⟨0x3FF8000000000000⟩, ⟨0x8000000000000000⟩⟩, by decide, by decide, _,
        rfl, .refl _⟩,
      ⟨.date, by rfl, ⟨⟨0, 1, 1⟩, 0, 0, 0, 0⟩, ?_, by decide, .inr ⟨?_, _, rfl, ?_⟩⟩,
      ⟨.pointer "_User", by rfl, "u9", _, rfl, .refl _⟩,
      ⟨.file, by rfl, "a.png", _, rfl, hswap _ _⟩, by simp⟩
    · constructor <;> decide
    · decide +kernel
    · constructor <;> decide
    · unfold isBareDate
      decide
    · exact hswap _ _

theorem decode_stored_placeDocument :
    IsCanonical placeSchema placeDocument ∧ (∀ e ∈ placeDocument, '$' ∉ e.1.toList) ∧
      RoundTrips "" placeSchema placeDocument (relationWrappers placeSchema.storage) := by
  have hdollar : ∀ e ∈ placeDocument, '$' ∉ e.1.toList := by decide +kernel
  exact ⟨isCanonical_placeDocument, hdollar,
    decode_stored "" isCanonical_placeDocument hdollar⟩

/-- A field whose name holds a dollar sign. -/
def dollarSchema : ClassSchema := (ClassSchema.named "Price").field "$a" .string

/-- A relation under a name that the storage view takes for a list of permissions. -/
def shadowedSchema : ClassSchema := (ClassSchema.named "Price").field "_rperm" (.relation "_Role")

/-- A dollar sign in a key is refused even if the schema declares it, and a relation that the
storage view shadows has no wrapper. -/
theorem not_roundTrips_reserved :
    (IsCanonical dollarSchema [("$a", .str "x")] ∧
      ¬ RoundTrips "" dollarSchema [("$a", .str "x")] (relationWrappers dollarSchema)) ∧
    (IsCanonical shadowedSchema [] ∧
      ¬ RoundTrips "" shadowedSchema [] (relationWrappers shadowedSchema)) := by
  refine ⟨⟨⟨by decide, by decide, by decide, ?_⟩, ?_⟩, ⟨⟨by decide, by simp, by simp, by simp⟩, ?_⟩⟩
  · simp only [List.forall_mem_singleton]
    exact ⟨.string, by rfl, "x", rfl⟩
  · rintro ⟨row, hrow, -⟩
    have hrefused : EncodedRow.ofObject "" dollarSchema [("$a", .str "x")] =
        .error (.invalidNestedKey "$a") := by rfl
    rw [hrefused] at hrow
    cases hrow
  · rintro ⟨row, hrow, entries, hperm, hsame⟩
    cases hrow
    have hnone : decode shadowedSchema (EncodedRow.stored ⟨[], []⟩) = [] := by rfl
    have hone : (relationWrappers shadowedSchema).length = 1 := by rfl
    rw [hnone] at hperm
    rw [← hperm.nil_eq, List.nil_append] at hsame
    have hlength := hsame.length_eq
    rw [hone] at hlength
    cases hlength

end Row

end DocStore
