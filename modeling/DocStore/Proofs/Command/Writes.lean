import DocStore.Proofs.Command.Condition
import DocStore.Proofs.Row.Forms
import DocStore.Proofs.Row.Single
import DocStore.Proofs.Update.Contributions

/-!
# Insertions and updates write values alike

An insertion looks at the type of a field to see how its value is written, an update looks at what
the value says of itself.  For values in the form of their field's type (`FieldType.Takes`) the two
agree (`Command.writes_alike`): what an update assigns is what an insertion writes, with a cast
around it where the column holds documents.
-/

namespace DocStore

open Sql

namespace Expression

/-- What the expression is before it is made a JSON document. -/
def plain : Expression → String
  | .null => "NULL"
  | .value v => literal v
  | .json v => quoteString v.compact
  | .point longitude latitude =>
    "POINT(" ++ literal (.ofFloat longitude) ++ ", " ++ literal (.ofFloat latitude) ++ ")"

/-- The expression is a JSON document. -/
def isDocument : Expression → Bool
  | .json _ => true
  | _ => false

/-- The expression as it is assigned. -/
def written (e : Expression) : String :=
  if e.isDocument then "CAST(" ++ e.plain ++ " AS JSON)" else e.plain

end Expression

/-- The cell of a row and an expression that stand for the same value. -/
inductive EncodedRow.Cell.Agrees : EncodedRow.Cell → Expression → Prop where
  | value (v : Json) : Agrees (.value (.value v)) (.value v)
  | json (v : Json) : Agrees (.value (.json v)) (.json v)
  | point (p : GeoPoint) : Agrees (.point p) (.point p.longitude p.latitude)

variable {now f : String} {v : Json} {type : FieldType} {schema : ClassSchema}
  {row : EncodedRow} {cell : EncodedRow.Cell} {e : Expression}

/-! ### The texts -/

/-- An insertion of one cell writes the plain expression. -/
theorem EncodedRow.render_ofCell (h : cell.Agrees e) (table : String) :
    (Command.insert table (ofCell f cell)).render =
      .ok ("INSERT INTO " ++ quoteName table ++ " (" ++ quoteName f ++ ") VALUES (" ++ e.plain ++
        ")") := by
  refine (Statement.render_eq (scoped_insertStatement _ table)).trans ?_
  rw [text_insertStatement, params_insertStatement]
  cases h <;>
    simp [ofCell, columns, valueTexts, firstValue, firstPoint, slotsFrom, Template.join,
      Param.textAt, Param.render, Expression.plain, String.append_assoc]

/-- A change by one expression is one assignment. -/
theorem SetClause.texts_put (f : String) (e : Expression) :
    (ofChanges [⟨f, [.put e]⟩]).texts = .ok [quoteName f ++ " = " ++ e.written] := by
  rw [texts_ofChanges]
  cases e <;>
    simp [ofChanges, ofChange, Step.assignments, Step.text, Step.params, Expression.text,
      Expression.params, SetClause.shift, Param.textAt, Param.render, Expression.written,
      Expression.plain, Expression.isDocument, String.append_assoc]

/-! ### The two ways of reading a value -/

namespace Update

/-- A wrapper is set to what its tag asks for. -/
theorem setExpression_wrapper {tag : String} {type : Option FieldType}
    (h : v.typeTag? = some tag) : setExpression f type v = wrapperExpression f v := by
  obtain ⟨entries, rfl⟩ := Json.exists_obj_of_typeTag? h
  rfl

/-- **An update sets a value to what an insertion stores for it.** -/
theorem setExpression_of_stores (h : EncodedRow.Stores type v cell) (hobject : type ≠ .object) :
    ∃ e, setExpression f (some type) v = .ok e ∧ cell.Agrees e ∧
      e.isDocument = type.isDocument := by
  cases h with
  | string s => exact ⟨_, rfl, .value _, rfl⟩
  | number n => exact ⟨_, rfl, .value _, rfl⟩
  | boolean b => exact ⟨_, rfl, .value _, rfl⟩
  | array items => exact ⟨_, rfl, .json _, rfl⟩
  | arrayOf contents items => exact ⟨_, rfl, .json _, rfl⟩
  | bareDate hread =>
    refine ⟨_, ?_, .value _, rfl⟩
    simp only [setExpression, if_true, dateExpression, Document.dateText?_str hread]
    rfl
  | date htag hiso hread =>
    refine ⟨_, ?_, .value _, rfl⟩
    simp only [setExpression_wrapper htag, wrapperExpression, htag, dateExpression,
      Document.dateText?_wrapper htag hiso, Document.dateText?_str hread]
    rfl
  | pointer target htag hid =>
    refine ⟨_, ?_, .value _, rfl⟩
    simp only [setExpression_wrapper htag, wrapperExpression, htag, hid, nameExpression]
  | file htag hname =>
    refine ⟨_, ?_, .value _, rfl⟩
    simp only [setExpression_wrapper htag, wrapperExpression, htag, hname, nameExpression]
  | geoPoint htag hpoint =>
    refine ⟨_, ?_, .point _, rfl⟩
    simp only [setExpression_wrapper htag, wrapperExpression, htag, hpoint]
  | bytes htag =>
    refine ⟨_, ?_, .json _, rfl⟩
    simp only [setExpression_wrapper htag, wrapperExpression, htag]
  | object htag => exact absurd rfl hobject

/-! ### The only change -/

/-- A value that is no operator replaces the old value of its field. -/
theorem readPlain_of_takes (htakes : type.Takes v) (hauth : f ≠ "authData")
    (hop : v.opTag? = none) :
    readPlain f (some type) v = .ok (if type = .object then none else some (.set v)) := by
  have hrelation : (some type).any FieldType.isRelation = false := by
    cases type with
    | relation target => exact htakes.elim
    | _ => rfl
  rcases FieldType.form_of_takes htakes with
    ⟨rfl, ⟨entries, rfl⟩, htag⟩ | ⟨hobject, tag, htag, hne⟩ | ⟨hobject, hplain, hnull, htag⟩
  · simp [readPlain, hop, hauth, htag, Json.isNull, FieldType.isRelation]
  · obtain ⟨entries, rfl⟩ := Json.exists_obj_of_typeTag? htag
    simp [readPlain, hrelation, hop, hauth, htag, hne, hobject, Json.isNull]
  · cases v with
    | obj entries => cases hplain
    | null | bool | num | str | arr =>
      simp [readPlain, hrelation, hop, htag, hnull, hobject]

/-- **An update of one entry makes one change.** -/
theorem compile_single (htype : schema.storage.fieldType? f = some type)
    (hdot : '.' ∉ f.toList) (hprovider : Key.provider? f = none) (hauth : f ≠ "authData")
    (htakes : type.Takes v) (hop : v.opTag? = none)
    (hstores : EncodedRow.Stores type v cell) :
    ∃ e, compile schema [(f, v)] 1 = .ok (SetClause.ofChanges [⟨f, [.put e]⟩]) ∧
      cell.Agrees e ∧ e.isDocument = type.isDocument := by
  have hsplit : (Key.split f).2 = [] := by rw [Key.split_of_undotted hdot]
  have hread : ofObject schema [(f, v)] =
      .ok ((plainContribution v (if type = .object then none else some (.set v))).addTo f []) := by
    rw [ofObject_eq]
    simp [inOrder, hprovider, add, contribution, hsplit, htype,
      readPlain_of_takes htakes hauth hop, columnOf_of_undotted hprovider hsplit, Except.map]
  by_cases hobject : type = .object
  · subst hobject
    cases hstores
    refine ⟨_, ?_, .json _, rfl⟩
    rw [compile, hread]
    rfl
  · obtain ⟨e, he, hagrees, hdocument⟩ := setExpression_of_stores (f := f) hstores hobject
    refine ⟨e, ?_, hagrees, hdocument⟩
    rw [if_neg hobject] at hread
    have hchanges : changes schema [(f, .set v)] = .ok [⟨f, [.put e]⟩] := by
      simp [changes, changesIn, operatorSteps, htype, he, Except.map, bind, Except.bind, pure,
        Except.pure]
    have hset : (plainContribution v (some (.set v))).addTo f [] = [(f, .set v)] := rfl
    rw [compile, hread, hset]
    simp [bind, Except.bind, pure, Except.pure, hchanges]

end Update

namespace Command

/-- **Insertions and updates write a value alike.**  What an update assigns to a field is what an
insertion writes for it, as a JSON document if the column holds documents.  Points are written
longitude first. -/
theorem writes_alike (htype : schema.storage.fieldType? f = some type)
    (hdot : '.' ∉ f.toList) (hprovider : Key.provider? f = none) (hauth : f ≠ "authData")
    (htakes : type.Takes v) (hop : v.opTag? = none)
    (hrow : EncodedRow.ofObject now schema [(f, v)] = .ok row) :
    ∃ clause written, Update.compile schema [(f, v)] 1 = .ok clause ∧
      (∀ table, (insert table row).render =
        .ok ("INSERT INTO " ++ quoteName table ++ " (" ++ quoteName f ++ ") VALUES (" ++ written ++
          ")")) ∧
      clause.texts = .ok [quoteName f ++ " = " ++
        if type.isDocument then "CAST(" ++ written ++ " AS JSON)" else written] ∧
      (type = .geoPoint → ∃ p, GeoPoint.ofJson? v = some p ∧
        written = "POINT(" ++ literal (.ofFloat p.longitude) ++ ", " ++
          literal (.ofFloat p.latitude) ++ ")") := by
  rcases EncodedRow.ofObject_single hdot hprovider hrow with ⟨rfl, -⟩ | ⟨t, cell, ht, hcell, rfl⟩
  · exact absurd rfl (FieldType.ne_null_of_takes htakes)
  · obtain rfl : type = t := Option.some.inj (htype.symm.trans ht)
    have hstores := EncodedRow.stores_of_takes htakes hcell
    obtain ⟨e, hcompile, hagrees, hdocument⟩ :=
      Update.compile_single htype hdot hprovider hauth htakes hop hstores
    refine ⟨_, e.plain, hcompile, EncodedRow.render_ofCell hagrees, ?_, ?_⟩
    · rw [SetClause.texts_put, Expression.written, hdocument]
    · rintro rfl
      cases hstores with
      | geoPoint htag hpoint =>
        cases hagrees
        exact ⟨_, hpoint, rfl⟩

/-- A class of places. -/
def harborSchema : ClassSchema := (ClassSchema.named "Harbor").field "entry" .geoPoint

/-- A place in the south-west. -/
def harborEntry : Json :=
  .obj [("__type", .str "GeoPoint"), ("latitude", .ofInt (-33)), ("longitude", .ofInt (-71))]

theorem writes_alike_harborEntry :
    FieldType.geoPoint.Takes harborEntry ∧
      ∃ row clause written p,
        EncodedRow.ofObject "" harborSchema [("entry", harborEntry)] = .ok row ∧
        Update.compile harborSchema [("entry", harborEntry)] 1 = .ok clause ∧
        (∀ table, (insert table row).render =
          .ok ("INSERT INTO " ++ quoteName table ++ " (" ++ quoteName "entry" ++ ") VALUES (" ++
            written ++ ")")) ∧
        clause.texts = .ok [quoteName "entry" ++ " = " ++ written] ∧
        GeoPoint.ofJson? harborEntry = some p ∧
        written = "POINT(" ++ literal (.ofFloat p.longitude) ++ ", " ++
          literal (.ofFloat p.latitude) ++ ")" := by
  have htype : harborSchema.storage.fieldType? "entry" = some .geoPoint := by decide +kernel
  have htag : FieldType.geoPoint.Takes harborEntry :=
    show harborEntry.typeTag? = some "GeoPoint" by decide +kernel
  obtain ⟨row, hrow⟩ :
      ∃ row, EncodedRow.ofObject "" harborSchema [("entry", harborEntry)] = .ok row :=
    ⟨⟨[], [("entry", ⟨.ofInt (-33), .ofInt (-71)⟩)]⟩, by decide +kernel⟩
  obtain ⟨clause, written, hclause, hinsert, htexts, hpoint⟩ :=
    writes_alike htype (by decide +kernel) (by decide +kernel) (by decide) htag
      (by decide +kernel) hrow
  obtain ⟨p, hp, hwritten⟩ := hpoint rfl
  exact ⟨htag, row, clause, written, p, hrow, hclause, hinsert, htexts, hp, hwritten⟩

end Command

end DocStore
