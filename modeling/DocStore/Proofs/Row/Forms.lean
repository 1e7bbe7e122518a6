import DocStore.Proofs.Result
import DocStore.Row.Encoding

/-!
# Values in the form of their type

Documents hold the values of a type in a certain form: texts, numbers and truth values as they are,
the others in wrappers that say what they are (`FieldType.Takes`).  Of such a value the type and the
value itself say the same, and the cell that it becomes is known from both (`EncodedRow.Stores`,
`EncodedRow.stores_of_takes`).
-/

namespace DocStore

open Sql

namespace FieldType

/-- A value has the form in which documents hold values of the type.  A date may also be a bare
text. -/
def Takes : FieldType → Json → Prop
  | .string, v => ∃ s, v = .str s
  | .number, v => ∃ n, v = .num n
  | .boolean, v => ∃ b, v = .bool b
  | .date, v =>
    (∃ s, v = .str s) ∨ v.typeTag? = some "Date" ∧ ∃ iso, v.get? "iso" = some (.str iso)
  | .pointer _, v => v.typeTag? = some "Pointer" ∧ ∃ id, v.get? "objectId" = some (.str id)
  | .file, v => v.typeTag? = some "File" ∧ ∃ name, v.get? "name" = some (.str name)
  | .geoPoint, v => v.typeTag? = some "GeoPoint"
  | .bytes, v => v.typeTag? = some "Bytes"
  | .array, v | .arrayOf _, v => ∃ items, v = .arr items
  | .object, v => (∃ entries, v = .obj entries) ∧ v.typeTag? = none
  | .relation _, _ => False

/-- Columns of the type hold JSON documents. -/
def isDocument : FieldType → Bool
  | .object | .array | .arrayOf _ | .bytes => true
  | _ => false

/-- Columns of the type hold values that a query compares with a parameter. -/
def isScalar : FieldType → Bool
  | .string | .number | .boolean | .date | .pointer _ | .file => true
  | _ => false

end FieldType

variable {now f : String} {v : Json} {type : FieldType} {cell : EncodedRow.Cell}

/-- A wrapper is an object. -/
theorem Json.exists_obj_of_typeTag? {tag : String} (h : v.typeTag? = some tag) :
    ∃ entries, v = .obj entries := by
  cases v with
  | obj entries => exact ⟨entries, rfl⟩
  | null | bool | num | str | arr => cases h

namespace FieldType

/-- A value in the form of a type is an object for a whole column, a wrapper, or no object. -/
theorem form_of_takes (h : type.Takes v) :
    (type = .object ∧ (∃ entries, v = .obj entries) ∧ v.typeTag? = none) ∨
      (type ≠ .object ∧ ∃ tag, v.typeTag? = some tag ∧ tag ≠ "Relation") ∨
      (type ≠ .object ∧ v.isObject = false ∧ v.isNull = false ∧ v.typeTag? = none) := by
  cases type with
  | object => exact .inl ⟨rfl, h⟩
  | relation target => exact h.elim
  | string | number | boolean | array | arrayOf =>
    obtain ⟨a, rfl⟩ := h
    exact .inr (.inr ⟨nofun, rfl, rfl, rfl⟩)
  | date =>
    rcases h with ⟨s, rfl⟩ | ⟨htag, -⟩
    · exact .inr (.inr ⟨nofun, rfl, rfl, rfl⟩)
    · exact .inr (.inl ⟨nofun, _, htag, by decide⟩)
  | pointer target | file => exact .inr (.inl ⟨nofun, _, h.1, by decide⟩)
  | geoPoint | bytes => exact .inr (.inl ⟨nofun, _, h, by decide⟩)

theorem ne_null_of_takes (h : type.Takes v) : v ≠ .null := by
  rintro rfl
  rcases form_of_takes h with ⟨-, ⟨entries, hentries⟩, -⟩ | ⟨-, tag, htag, -⟩ | ⟨-, -, hnull, -⟩
  · cases hentries
  · cases htag
  · cases hnull

end FieldType

namespace Document

theorem dateText?_wrapper {iso : String} (htag : v.typeTag? = some "Date")
    (hiso : v.get? "iso" = some (.str iso)) : dateText? f v = dateText? f (.str iso) := by
  obtain ⟨entries, rfl⟩ := Json.exists_obj_of_typeTag? htag
  simp only [dateText?, htag, hiso, if_true, Option.bind_some, Json.asString?]

theorem dateText?_str {s : String} {t : Timestamp} (h : Timestamp.read? s = some t) :
    dateText? f (.str s) = .ok (some t.engineText) := by
  simp only [dateText?, h]

theorem dateText?_str_eq_ok {s : String} {text : Option String}
    (h : dateText? f (.str s) = .ok text) :
    ∃ t, Timestamp.read? s = some t ∧ text = some t.engineText := by
  simp only [dateText?] at h
  split at h <;> cases h
  exact ⟨_, ‹_›, rfl⟩

end Document

namespace EncodedRow

/-- What a field of the type stores for a value in the form of the type. -/
inductive Stores : FieldType → Json → Cell → Prop where
  | string (s : String) : Stores .string (.str s) (.value (.text s))
  | number (n : Number) : Stores .number (.num n) (.value (.value (.num n)))
  | boolean (b : Bool) : Stores .boolean (.bool b) (.value (.value (.bool b)))
  | bareDate {s : String} {t : Timestamp} (hread : Timestamp.read? s = some t) :
      Stores .date (.str s) (.value (.text t.engineText))
  | date {v : Json} {iso : String} {t : Timestamp} (htag : v.typeTag? = some "Date")
      (hiso : v.get? "iso" = some (.str iso)) (hread : Timestamp.read? iso = some t) :
      Stores .date v (.value (.text t.engineText))
  | pointer (target : String) {v : Json} {id : String} (htag : v.typeTag? = some "Pointer")
      (hid : Document.pointerId? v = some id) : Stores (.pointer target) v (.value (.text id))
  | file {v : Json} {name : String} (htag : v.typeTag? = some "File")
      (hname : Document.fileName? v = some name) : Stores .file v (.value (.text name))
  | geoPoint {v : Json} {p : GeoPoint} (htag : v.typeTag? = some "GeoPoint")
      (hpoint : GeoPoint.ofJson? v = some p) : Stores .geoPoint v (.point p)
  | bytes {v : Json} (htag : v.typeTag? = some "Bytes") : Stores .bytes v (.value (.json v))
  | array (items : List Json) : Stores .array (.arr items) (.value (.json (.arr items)))
  | arrayOf (contents : FieldType) (items : List Json) :
      Stores (.arrayOf contents) (.arr items) (.value (.json (.arr items)))
  | object {entries : Object} (htag : (Json.obj entries).typeTag? = none) :
      Stores .object (.obj entries) (.value (.json (.obj entries)))

theorem encodeDate_str_eq_ok {s : String} {q : Param} (h : encodeDate now f (.str s) = .ok q) :
    ∃ t, Timestamp.read? s = some t ∧ q = .text t.engineText := by
  have hbare : ¬ (f = "updatedAt" ∧ (Json.str s).typeTag? = some "Date" ∧
      (Json.str s).get? "iso" = none) := fun hnow => by cases hnow.2.1
  rw [encodeDate, if_neg hbare] at h
  obtain ⟨text, htext, rfl⟩ := Result.map_eq_ok.1 h
  obtain ⟨t, hread, rfl⟩ := Document.dateText?_str_eq_ok htext
  exact ⟨t, hread, rfl⟩

/-- A date is stored alike with and without its wrapper. -/
theorem encodeDate_wrapper {iso : String} (htag : v.typeTag? = some "Date")
    (hiso : v.get? "iso" = some (.str iso)) :
    encodeDate now f v = encodeDate now f (.str iso) := by
  have hbare : (Json.str iso).typeTag? ≠ some "Date" := nofun
  simp [encodeDate, hiso, hbare, Document.dateText?_wrapper htag hiso]

/-- **What is stored for a value in the form of its type.** -/
theorem stores_of_takes (htakes : type.Takes v) (hcell : encodeCell now f type v = .ok cell) :
    Stores type v cell := by
  cases type with
  | string =>
    obtain ⟨s, rfl⟩ := htakes
    cases hcell
    exact .string s
  | number =>
    obtain ⟨n, rfl⟩ := htakes
    cases hcell
    exact .number n
  | boolean =>
    obtain ⟨b, rfl⟩ := htakes
    cases hcell
    exact .boolean b
  | date =>
    obtain ⟨q, hq, rfl⟩ := Result.map_eq_ok.1 hcell
    rcases htakes with ⟨s, rfl⟩ | ⟨htag, iso, hiso⟩
    · obtain ⟨t, hread, rfl⟩ := encodeDate_str_eq_ok hq
      exact .bareDate hread
    · rw [encodeDate_wrapper htag hiso] at hq
      obtain ⟨t, hread, rfl⟩ := encodeDate_str_eq_ok hq
      exact .date htag hiso hread
  | pointer target =>
    obtain ⟨htag, id, hid⟩ := htakes
    have hpointer : Document.pointerId? v = some id := by
      simp [Document.pointerId?, htag, hid, Json.asString?]
    simp only [encodeCell, hpointer] at hcell
    cases hcell
    exact .pointer target htag hpointer
  | file =>
    obtain ⟨htag, name, hname⟩ := htakes
    have hfile : Document.fileName? v = some name := by
      simp [Document.fileName?, hname, Json.asString?]
    simp only [encodeCell, hfile] at hcell
    cases hcell
    exact .file htag hfile
  | geoPoint =>
    simp only [encodeCell] at hcell
    split at hcell <;> cases hcell
    exact .geoPoint htakes ‹_›
  | bytes =>
    cases hcell
    exact .bytes htakes
  | array =>
    obtain ⟨items, rfl⟩ := htakes
    cases hcell
    exact .array items
  | arrayOf contents =>
    obtain ⟨items, rfl⟩ := htakes
    cases hcell
    exact .arrayOf contents items
  | object =>
    obtain ⟨⟨entries, rfl⟩, htag⟩ := htakes
    cases hcell
    exact .object htag
  | relation target => exact htakes.elim

end EncodedRow

end DocStore
