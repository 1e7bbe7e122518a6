import DocStore.Proofs.Query.Membership
import DocStore.Proofs.Row.Forms
import DocStore.Proofs.Row.RoundTrip
import DocStore.Proofs.Row.Single

/-!
# Documents are looked for by their own values

A document that was read can be looked for by the value of one of its fields.  The query then
compares a column with a parameter, and it finds the document if this is the parameter that is
stored for the value (`Query.ComparesWith`).

A query looks at what a value says of itself, whatever the type of its field.  This is enough for
values in the form of their type, except for the dates that are bare texts in documents: they are
stored as timestamps and compared as they stand (`Query.finds_own_values`,
`Query.not_finds_createdAt`).
-/

namespace DocStore

open Sql

variable {now f : String} {v w : Json} {p : Param} {type : FieldType} {schema : ClassSchema}
  {row : EncodedRow} {r : Row}

/-! ### Equality with a value -/

/-- A query compares with what is stored for a value, unless this is a bare date. -/
theorem Constraint.scalar_of_stores {cell : EncodedRow.Cell}
    (h : EncodedRow.Stores type v cell) (hscalar : type.isScalar = true)
    (hbare : type = .date → v.isObject = true) :
    ∃ w, cell = .value (.value w) ∧ scalar f false v = .ok w := by
  cases h with
  | string s => exact ⟨_, rfl, rfl⟩
  | number n => exact ⟨_, rfl, rfl⟩
  | boolean b => exact ⟨_, rfl, rfl⟩
  | bareDate hread => cases hbare rfl
  | date htag hiso hread =>
    obtain ⟨entries, rfl⟩ := Json.exists_obj_of_typeTag? htag
    refine ⟨_, rfl, ?_⟩
    simp only [scalar, htag, Document.dateText?_wrapper htag hiso, Document.dateText?_str hread]
    rfl
  | pointer target htag hid =>
    obtain ⟨entries, rfl⟩ := Json.exists_obj_of_typeTag? htag
    refine ⟨_, rfl, ?_⟩
    simp only [scalar, htag, hid]
    rfl
  | file htag hname =>
    obtain ⟨entries, rfl⟩ := Json.exists_obj_of_typeTag? htag
    refine ⟨_, rfl, ?_⟩
    simp only [scalar, htag, hname]
    rfl
  | geoPoint | bytes | array | arrayOf | object => cases hscalar

/-- A value in the form of a scalar type is read as equality. -/
theorem Constraint.readField_of_stores {cell : EncodedRow.Cell}
    (h : EncodedRow.Stores type v cell) (hscalar : type.isScalar = true) :
    readField f v = .ok [.equals v] := by
  cases h with
  | string | number | boolean | bareDate => rfl
  | date htag | pointer target htag | file htag =>
    obtain ⟨entries, rfl⟩ := Json.exists_obj_of_typeTag? htag
    simp [readField, htag]
  | geoPoint | bytes | array | arrayOf | object => cases hscalar

/-- What is compared as a scalar is neither `null` nor a point. -/
theorem Constraint.lowerEquals_of_scalar (h : scalar f false v = .ok w) :
    lowerEquals f false false v = .ok (.scalar .equal w) := by
  have hnull : v.isNull = false := by
    cases v with
    | null => cases h
    | bool | num | str | arr | obj => rfl
  have hpoint : v.typeTag? ≠ some "GeoPoint" := by
    intro htag
    obtain ⟨entries, rfl⟩ := Json.exists_obj_of_typeTag? htag
    simp [scalar, htag] at h
  simp [lowerEquals, hnull, hpoint, h, Except.map]

namespace Query

/-- The condition of a query for one entry of a document. -/
def whereEntry (schema : ClassSchema) (f : String) (v : Json) : Except Fault WhereClause := do
  let q ← ofJson (.obj [(f, v)])
  q.compile schema 1

/-- The query for an entry compares the column of the field with a parameter. -/
def ComparesWith (schema : ClassSchema) (f : String) (v : Json) (p : Param) : Prop :=
  ∃ w, whereEntry schema f v = .ok w ∧ w.pattern.print = "$1 = $2" ∧ w.params = [.ident f, p]

/-- An entry that asks for equality is one comparison. -/
theorem comparesWith_of_scalar (hreserved : Key.isReserved f = false)
    (hprovider : Key.provider? f = none) (htype : schema.storage.fieldType? f = some type)
    (hscalar : type.isScalar = true) (hread : Constraint.readField f v = .ok [.equals v])
    (hvalue : Constraint.scalar f false v = .ok w) : ComparesWith schema f v (.value w) := by
  obtain ⟨hdollar, hdot⟩ := Key.isReserved_eq_false_iff.1 hreserved
  have htarget : Target.ofName f = ⟨f, []⟩ := by
    simp [Target.ofName, Key.split_of_undotted hdot, hprovider]
  have harray : type.isArray = false := by
    cases type <;> first | rfl | cases hscalar
  -- no operator has the name of a field
  have hhead : f.toList.head? ≠ some '$' := fun hhead => hdollar (List.mem_of_head? hhead)
  have hor : f ≠ "$or" := by
    rintro rfl
    exact hhead (by decide)
  have hand : f ≠ "$and" := by
    rintro rfl
    exact hhead (by decide)
  have hentry : ofEntry f v = .ok (.field f [.equals v]) := by
    simp [ofEntry, hor, hand, hhead, hread, Except.map]
  have hquery : ofJson (.obj [(f, v)]) = .ok [.field f [.equals v]] := by
    rw [ofJson]
    exact ofEntries_cons_eq_ok.2 ⟨_, [], hentry, rfl, rfl⟩
  have hlower : LowersTo schema f (.equals v) (.scalar .equal w) := by
    refine ⟨type, ?_, ?_⟩
    · rw [columnType?, htarget, htype]
    · rw [htarget, harray]
      exact Constraint.lowerEquals_of_scalar hvalue
  have hfilter : filter schema [.field f [.equals v]] = .ok [.tests ⟨f, []⟩ [.scalar .equal w]] :=
    (filter_field_eq_ok rfl).2 ⟨_, hlower, by rw [htarget]⟩
  refine ⟨(Filter.whereClause [.tests ⟨f, []⟩ [.scalar .equal w]]).shift 0, ?_, ?_, rfl⟩
  · rw [whereEntry, hquery]
    show compile schema [.field f [.equals v]] 1 = _
    rw [compile, hfilter]
    rfl
  · have hpattern : ((Filter.whereClause [.tests ⟨f, []⟩ [.scalar .equal w]]).shift 0).pattern =
        sql [.slot 1, " ", "=", " ", .slot 2] := rfl
    rw [hpattern]
    decide

end Query

/-! ### Values of columns -/

/-- What the engine gives for a column of the type, if it gives a value. -/
def FieldType.Returns : FieldType → Json → Prop
  | .string, raw | .date, raw | .pointer _, raw | .file, raw => ∃ s, raw = .str s
  | .number, raw => ∃ n, raw = .num n
  | .boolean, raw => (∃ n, raw = .num n) ∨ ∃ s, raw = .str s
  | _, _ => True

namespace Row

theorem get?_foldl_decodeColumn {storage : ClassSchema} (htype : storage.fieldType? f = some type)
    {before : Object} (h : (r.foldl (decodeColumn storage) before).get? f = some v) :
    before.get? f = some v ∨
      ∃ raw, (f, raw) ∈ r ∧ raw.isNull = false ∧ decodeCell f type raw = some v := by
  induction r generalizing before with
  | nil => exact .inl h
  | cons e rest ih =>
    obtain ⟨column, raw⟩ := e
    rcases ih h with hbefore | ⟨raw', hraw, hnull, hcell⟩
    · -- the value was there, or it came with this column
      by_cases hcolumn : column = f
      · subst hcolumn
        unfold decodeColumn at hbefore
        simp only [htype] at hbefore
        split at hbefore
        · exact .inl hbefore
        · next hnull =>
          split at hbefore
          · next w hw =>
            rw [Object.get?_insert_self] at hbefore
            cases hbefore
            exact .inr ⟨raw, List.mem_cons_self, by simpa using hnull, hw⟩
          · exact .inl hbefore
      · have hkeep : (decodeColumn storage before (column, raw)).get? f = before.get? f := by
          unfold decodeColumn
          repeat' split
          all_goals first | rfl | exact Object.get?_insert_of_ne _ (Ne.symm hcolumn) _
        exact .inl (hkeep ▸ hbefore)
    · exact .inr ⟨raw', List.mem_cons_of_mem _ hraw, hnull, hcell⟩

/-- The wrappers of relations leave all other fields as they are. -/
theorem get?_foldl_decodeRelation {fields : List (String × FieldType)} {o : Object}
    (h : ∀ e ∈ fields, e.1 = f → e.2.isRelation = false) :
    (fields.foldl decodeRelation o).get? f = o.get? f := by
  induction fields generalizing o with
  | nil => rfl
  | cons e rest ih =>
    rw [List.foldl_cons, ih fun e' he' => h e' (List.mem_cons_of_mem _ he')]
    obtain ⟨name, kind⟩ := e
    cases kind with
    | relation target =>
      have hne : f ≠ name := fun heq => by cases h _ List.mem_cons_self heq.symm
      exact Object.get?_insert_of_ne _ hne _
    | _ => rfl

/-- **The value of a field in a document that was read comes from a column of the row.** -/
theorem exists_of_decode (htype : schema.storage.fieldType? f = some type)
    (hrelation : type.isRelation = false) (h : (decode schema r).get? f = some v) :
    ∃ raw, (f, raw) ∈ r ∧ raw.isNull = false ∧ decodeCell f type raw = some v := by
  rw [decode, get?_foldl_decodeRelation] at h
  · exact (get?_foldl_decodeColumn htype h).resolve_left fun hempty => by cases hempty
  · rintro ⟨name, kind⟩ he rfl
    have hkind : schema.storage.fieldType? name = some kind :=
      (lookup_eq_some_iff schema.storage.fields.nodup_keys).2 he
    rw [htype] at hkind
    cases hkind
    exact hrelation

/-- What a column gives becomes a value in the form of its type. -/
theorem takes_of_decodeCell {raw : Json} (hscalar : type.isScalar = true) (hraw : type.Returns raw)
    (h : decodeCell f type raw = some v) : type.Takes v := by
  cases type with
  | string | number =>
    obtain ⟨a, rfl⟩ := hraw
    cases h
    exact ⟨a, rfl⟩
  | boolean =>
    rcases hraw with ⟨n, rfl⟩ | ⟨s, rfl⟩ <;>
    · cases h
      exact ⟨_, rfl⟩
  | date =>
    obtain ⟨s, rfl⟩ := hraw
    obtain rfl : decodeDate f (.str s) = v := Option.some.inj h
    unfold decodeDate
    split
    · split
      · exact .inl ⟨_, rfl⟩
      · exact .inr ⟨rfl, _, rfl⟩
    · exact .inl ⟨s, rfl⟩
  | pointer target | file =>
    obtain ⟨s, rfl⟩ := hraw
    cases h
    exact ⟨rfl, s, rfl⟩
  | object | array | arrayOf | bytes | geoPoint | relation => cases hscalar

/-- A date that is read as a bare text is one of the two, in the text that documents have. -/
theorem isBareDate_of_decodeCell {raw : Json} {s : String} {t : Timestamp}
    (h : decodeCell f .date raw = some (.str s)) (hread : Timestamp.read? s = some t) :
    isBareDate f ∧ ∃ t' : Timestamp, s = t'.isoText := by
  have hdecode : decodeDate f raw = .str s := Option.some.inj h
  unfold decodeDate at hdecode
  split at hdecode
  · next t' ht' =>
    split at hdecode
    · next hfield =>
      cases hdecode
      exact ⟨hfield, t', rfl⟩
    · cases hdecode
  · next hnone =>
    subst hdecode
    have hraw : ((Json.str s).asString?).bind Timestamp.read? = some t := hread
    rw [hnone] at hraw
    cases hraw

end Row

/-- The two texts of points in time are never the same: only that in documents names a zone. -/
theorem Timestamp.isoText_ne_engineText (t u : Timestamp) : t.isoText ≠ u.engineText := by
  intro heq
  have hzone : 'Z' ∈ t.isoText.toList := by simp [isoText]
  have hpadded : ∀ width n, 'Z' ∉ padded width n := fun width n hmem =>
    absurd (isDigit_of_mem_padded hmem) (by decide)
  have hyear : 'Z' ∉ yearText u.date.year := by
    unfold yearText
    split
    · exact hpadded _ _
    · split <;> simp [hpadded]
  rw [heq] at hzone
  simp [engineText, dateText, timeText, hpadded, hyear] at hzone

namespace Query

/-- **A query for a value of a document compares with what is stored for it**, if the value has the
form of its type and is no bare date.  A bare date is one of the two that documents have as texts,
and it is compared as it stands and not as the timestamp that is stored.  A value that has not the
form of its type comes from a column that holds what no column of the type gives. -/
theorem finds_own_values (htype : schema.storage.fieldType? f = some type)
    (hscalar : type.isScalar = true) (hdecoded : (Row.decode schema r).get? f = some v)
    (hrow : EncodedRow.ofObject now schema [(f, v)] = .ok row) (hp : (f, p) ∈ row.values) :
    (type.Takes v → (type = .date → v.isObject = true) → ComparesWith schema f v p) ∧
      (∀ s, type = .date → v = .str s → Row.isBareDate f ∧ ComparesWith schema f v (.text s) ∧
        p ≠ .text s ∧ ∃ t, Timestamp.read? s = some t ∧ p = .text t.engineText) ∧
      (¬ type.Takes v → ∃ raw, (f, raw) ∈ r ∧ raw.isNull = false ∧ ¬ type.Returns raw) := by
  obtain ⟨hreserved, hprovider, type', htype', hcell⟩ := EncodedRow.single_of_mem_values hrow hp
  obtain rfl : type = type' := Option.some.inj (htype.symm.trans htype')
  have hrelation : type.isRelation = false := by
    cases type <;> first | rfl | cases hscalar
  obtain ⟨raw, hraw, hnull, hdecode⟩ := Row.exists_of_decode htype hrelation hdecoded
  refine ⟨fun htakes hbare => ?_, ?_, fun htakes => ⟨raw, hraw, hnull, fun hreturns => ?_⟩⟩
  · have hstores := EncodedRow.stores_of_takes htakes hcell
    obtain ⟨w, hw, hvalue⟩ := Constraint.scalar_of_stores (f := f) hstores hscalar hbare
    cases hw
    exact comparesWith_of_scalar hreserved hprovider htype hscalar
      (Constraint.readField_of_stores hstores hscalar) hvalue
  · rintro s rfl rfl
    obtain ⟨q, hq, ⟨⟩⟩ := Result.map_eq_ok.1 hcell
    obtain ⟨t, hread, rfl⟩ := EncodedRow.encodeDate_str_eq_ok hq
    obtain ⟨hfield, t', rfl⟩ := Row.isBareDate_of_decodeCell hdecode hread
    refine ⟨hfield, comparesWith_of_scalar hreserved hprovider htype hscalar rfl rfl, ?_, t, hread,
      rfl⟩
    intro heq
    have htext : t.engineText = t'.isoText := by simpa [Param.text] using heq
    exact Timestamp.isoText_ne_engineText t' t htext.symm
  · exact htakes (Row.takes_of_decodeCell hscalar hreturns hdecode)

/-- A class with the dates of every document and one more. -/
def taskSchema : ClassSchema := (ClassSchema.withDefaultFields "Task").field "due" .date

/-- A row with two dates. -/
def taskRow : Row :=
  [("createdAt", .str "2024-02-29 12:00:00.000000"), ("due", .str "2024-03-01 08:30:00.000000")]

/-- The wrapped date of the document. -/
def taskDue : Json := .obj [("__type", .str "Date"), ("iso", .str "2024-03-01T08:30:00.000Z")]

theorem finds_own_values_due :
    (Row.decode taskSchema taskRow).get? "due" = some taskDue ∧
      EncodedRow.ofObject "" taskSchema [("due", taskDue)] =
        .ok ⟨[("due", .text "2024-03-01 08:30:00.000000")], []⟩ ∧
      ComparesWith taskSchema "due" taskDue (.text "2024-03-01 08:30:00.000000") := by
  have hdecoded : (Row.decode taskSchema taskRow).get? "due" = some taskDue := by decide +kernel
  have hrow : EncodedRow.ofObject "" taskSchema [("due", taskDue)] =
      .ok ⟨[("due", .text "2024-03-01 08:30:00.000000")], []⟩ := by decide +kernel
  have htype : taskSchema.storage.fieldType? "due" = some .date := by decide +kernel
  have htakes : FieldType.date.Takes taskDue := .inr ⟨by decide +kernel, _, rfl⟩
  have hfinds := finds_own_values htype rfl hdecoded hrow List.mem_cons_self
  exact ⟨hdecoded, hrow, hfinds.1 htakes fun _ => rfl⟩

/-- The date of creation is compared as the document has it, and stored as a timestamp. -/
theorem not_finds_createdAt :
    (Row.decode taskSchema taskRow).get? "createdAt" = some (.str "2024-02-29T12:00:00.000Z") ∧
      EncodedRow.ofObject "" taskSchema [("createdAt", .str "2024-02-29T12:00:00.000Z")] =
        .ok ⟨[("createdAt", .text "2024-02-29 12:00:00.000000")], []⟩ ∧
      (whereEntry taskSchema "createdAt" (.str "2024-02-29T12:00:00.000Z")).map
          WhereClause.params =
        .ok [.ident "createdAt", .text "2024-02-29T12:00:00.000Z"] ∧
      ¬ ∀ now schema f type v r row p, schema.storage.fieldType? f = some type →
        type.isScalar = true → (Row.decode schema r).get? f = some v →
        EncodedRow.ofObject now schema [(f, v)] = .ok row → (f, p) ∈ row.values →
        ComparesWith schema f v p := by
  have hdecoded : (Row.decode taskSchema taskRow).get? "createdAt" =
      some (.str "2024-02-29T12:00:00.000Z") := by decide +kernel
  have hrow : EncodedRow.ofObject "" taskSchema [("createdAt", .str "2024-02-29T12:00:00.000Z")] =
      .ok ⟨[("createdAt", .text "2024-02-29 12:00:00.000000")], []⟩ := by decide +kernel
  have hparams : (whereEntry taskSchema "createdAt" (.str "2024-02-29T12:00:00.000Z")).map
      WhereClause.params = .ok [.ident "createdAt", .text "2024-02-29T12:00:00.000Z"] := by
    decide +kernel
  refine ⟨hdecoded, hrow, hparams, fun hall => ?_⟩
  have htype : taskSchema.storage.fieldType? "createdAt" = some .date := by decide +kernel
  obtain ⟨w, hw, -, hstored⟩ := hall _ _ _ _ _ _ _ _ htype rfl hdecoded hrow List.mem_cons_self
  rw [hw] at hparams
  have heq : w.params = [.ident "createdAt", .text "2024-02-29T12:00:00.000Z"] :=
    Except.ok.inj hparams
  rw [hstored] at heq
  exact absurd heq (by decide)

end Query

end DocStore
