import DocStore.Proofs.Catalog.Additions
import DocStore.Proofs.Dict
import DocStore.Proofs.Schema.Joins

/-!
# Conflicts

Adding a field and creating a class change the tables before they look at the registry, so one that
the registry refuses may have left something behind.  Over a catalog in which tables and registry
agree (`Catalog.IsConsistent`) this is at most a place for the field, or join tables of the given
schema (`Catalog.conflicts_leave`); nothing is left behind where the refused field asks for the kind
of place that it has.  What is left behind is real (`Catalog.not_unchanged_of_conflict`).
-/

namespace DocStore

open Program (Ends)

namespace Catalog

variable {w w' : Catalog} {registry className field : String} {type : FieldType}
  {cast : String → Option Json}

/-- The columns of a class table that are no fields of the class. -/
def storageColumns (className : String) : List String :=
  (ClassSchema.named className).columns.map Column.name

/-- The table of a class has the columns of its schema, and the class has the join tables of its
schema. -/
structure Agrees (w : Catalog) (className : String) (document : Option Json) : Prop where
  isSchema : IsSchema document
  columns : ∃ t, w.get? className = some t ∧ ∀ column, column ∈ t.columns ↔
    column ∈ storageColumns className ∨
      ∃ type, typeIn? document column = some type ∧ type.isRelation = false
  joins : ∀ field, (∃ t, w.get? (Names.joinTable className field) = some t) ↔
    ∃ type, typeIn? document field = some type ∧ type.isRelation = true

/-- There is a registry, and the tables of all its classes agree with it. -/
structure IsConsistent (w : Catalog) (registry : String) : Prop where
  hasRegistry : ∃ t, w.get? registry = some t
  agrees : ∀ className d, w.document? registry className = some d → w.Agrees className d

theorem Agrees.keeps {d : Option Json} (h : w.Agrees className d)
    (hd : w.document? registry className = some d) : w.Keeps registry className where
  table := h.columns.imp fun _ => And.left
  row := ⟨d, hd, h.isSchema⟩

/-- A registered field has a place. -/
theorem Agrees.hasPlace {d : Option Json} {registered : FieldType} (h : w.Agrees className d)
    (hd : typeIn? d field = some registered) (htype : registered.isRelation = type.isRelation) :
    w.HasPlace className field type := by
  unfold HasPlace
  rw [← htype]
  cases hrelation : registered.isRelation with
  | true => exact (h.joins field).2 ⟨registered, hd, hrelation⟩
  | false =>
    obtain ⟨t, ht, hcolumns⟩ := h.columns
    exact ⟨t, ht, (hcolumns field).2 (.inr ⟨registered, hd, hrelation⟩)⟩

/-! ### Refusals -/

/-- What a deed fails with has a number. -/
theorem act_eq_error {d : Deed} {e : Fault} (h : (d.act cast w).1 = .error e) :
    ∃ number, e = Deed.refusal number := by
  cases d with
  | createTable table columns => cases h
  | addColumn table column =>
    simp only [Deed.act] at h
    split at h
    · exact ⟨_, (Except.error.inj h).symm⟩
    · split at h
      · exact ⟨_, (Except.error.inj h).symm⟩
      · cases h
  | register table className schema =>
    simp only [Deed.act] at h
    split at h
    · exact ⟨_, (Except.error.inj h).symm⟩
    · split at h
      · exact ⟨_, (Except.error.inj h).symm⟩
      · cases h
      · exact ⟨_, (Except.error.inj h).symm⟩
  | setSchema table className schema =>
    simp only [Deed.act] at h
    split at h
    · exact ⟨_, (Except.error.inj h).symm⟩
    · split at h
      · cases h
      · split at h
        · cases h
        · exact ⟨_, (Except.error.inj h).symm⟩
  | readSchema table className value column =>
    simp only [Deed.act] at h
    split at h
    · exact ⟨_, (Except.error.inj h).symm⟩
    · split at h
      · cases h
      · split at h
        · cases h
        · exact ⟨_, (Except.error.inj h).symm⟩

/-- An addition reports what the engine fails with as it is. -/
theorem resolve_addField_eq_error {answer : Except Fault (Nat × List Row)} {e : Fault}
    (hanswer : ∀ e, answer = .error e → ∃ number, e = Deed.refusal number)
    (h : Attempt.addField.resolve className (answer.map Prod.fst) = .error e) :
    ∃ number, e = Deed.refusal number := by
  cases answer with
  | ok v => cases h
  | error fault =>
    obtain ⟨number, rfl⟩ := hanswer fault rfl
    refine ⟨number, ?_⟩
    simp only [Except.map, Attempt.resolve, Attempt.verdict, Deed.refusal, Fault.engineNumber,
      Attempt.meaning] at h
    split at h
    · cases h
    · next hverdict =>
      split at hverdict
      · cases hverdict
      · obtain rfl := Option.some.inj hverdict
        exact (Except.error.inj h).symm

/-- A bad field name is refused before anything is sent. -/
theorem ends_addField_of_error {e : Fault} (cast : String → Option Json) (w : Catalog)
    (registry className : String) (type : FieldType) (hfield : Names.checkField field = .error e) :
    Ends (engine cast) (Store.addField registry className field type) w (.error e) w := by
  have hcheck : Ends (engine cast) (.done (Names.checkField field)) w (.error e) w := by
    rw [hfield]
    exact .done _
  exact .report hcheck.bind_error

theorem perform_ne_fieldAlreadyExists (d : Deed) (c f : String) :
    ((d.act cast w).1.map fun _ => ()) ≠ .error (.fieldAlreadyExists c f) := by
  intro h
  obtain ⟨number, hnumber⟩ := act_eq_error (Result.map_eq_error.1 h)
  cases hnumber

/-- An addition to a class that is not registered meets no other type. -/
theorem ends_addField_of_unregistered (cast : String → Option Json)
    (hregistry : ∃ t, w.get? registry = some t) (hnone : w.document? registry className = none)
    (hfield : Names.checkField field = .ok ()) (type : FieldType) :
    ∃ result w', Ends (engine cast) (Store.addField registry className field type) w result w' ∧
      ∀ c f, result ≠ .error (.fieldAlreadyExists c f) := by
  have hplace := Ends.executeAs .addField className (does_addField className field type) cast w
  rw [act_placeDeed] at hplace
  cases hresult : Attempt.addField.resolve className
      (((placeDeed className field type).act cast w).1.map Prod.fst) with
  | error e =>
    have hcheck : Ends (engine cast) (.done (Names.checkField field)) w (.ok ()) w := by
      rw [hfield]
      exact .done _
    rw [hresult] at hplace
    refine ⟨_, _, .report (hcheck.bind_ok hplace.bind_error), ?_⟩
    rintro c f ⟨rfl⟩
    obtain ⟨number, hnumber⟩ := resolve_addField_eq_error (fun e => act_eq_error) hresult
    cases hnumber
  | ok n =>
    rw [hresult] at hplace
    -- the lookup finds no row
    have hnone' : (w.withPlace className field type).document? registry className = none :=
      (document?_withPlace hregistry).trans hnone
    have hlookup := ends_selectField_of_none cast (exists_get?_withPlace hregistry) hnone' field
    exact ⟨_, _, ends_addField hfield hplace hlookup rfl
      (Ends.perform (Command.does_registerField registry className field type) cast _),
      perform_ne_fieldAlreadyExists _⟩

/-- An addition that meets another type leaves the place behind that it made sure of. -/
theorem ends_addField_of_isConsistent (cast : String → Option Json) (h : w.IsConsistent registry)
    (className field : String) (type : FieldType) :
    ∃ result w', Ends (engine cast) (Store.addField registry className field type) w result w' ∧
      ∀ c f, result = .error (.fieldAlreadyExists c f) →
        ∃ registered, w.registered? registry className field = some registered ∧
          registered ≠ type ∧ w' = w.withPlace className field type := by
  cases hfield : Names.checkField field with
  | error e =>
    refine ⟨_, _, ends_addField_of_error cast w registry className type hfield, ?_⟩
    rintro c f ⟨rfl⟩
    unfold Names.checkField at hfield
    split at hfield <;> cases hfield
  | ok _ =>
    cases hrow : w.document? registry className with
    | none =>
      obtain ⟨result, w', hends, hne⟩ :=
        ends_addField_of_unregistered cast h.hasRegistry hrow hfield type
      exact ⟨result, w', hends, fun c f hcontra => absurd hcontra (hne c f)⟩
    | some d =>
      have hkeeps := (h.agrees className d hrow).keeps hrow
      cases hregistered : w.registered? registry className field with
      | none =>
        have hsettle := Ends.perform (Command.does_registerField registry className field type) cast
          (w.withPlace className field type)
        have hends : Ends (engine cast) (Store.addField registry className field type) w _ _ :=
          ends_addField_of_keeps hfield hkeeps (by rw [hregistered]; exact hsettle)
        exact ⟨_, _, hends, fun c f hcontra => absurd hcontra (perform_ne_fieldAlreadyExists _ c f)⟩
      | some registered =>
        refine ⟨_, _, ends_addField_of_some cast hfield hkeeps hregistered type, ?_⟩
        intro c f hresult
        refine ⟨registered, rfl, ?_, rfl⟩
        rintro rfl
        rw [if_pos rfl] at hresult
        cases hresult

/-! ### Creating classes -/

/-- The catalog with tables of the given names and columns. -/
def withTables (w : Catalog) (tables : List (String × List String)) : Catalog :=
  tables.foldl (fun w t => w.withTable t.1 t.2) w

theorem withTables_cons (w : Catalog) (t : String × List String)
    (tables : List (String × List String)) :
    w.withTables (t :: tables) = (w.withTable t.1 t.2).withTables tables :=
  rfl

/-- Tables that are created one after the other. -/
theorem ends_forM_perform {cs : List Command} {tables : List (String × List String)}
    (cast : String → Option Json) (w : Catalog)
    (h : List.Forall₂ (fun c t => c.Does (.createTable t.1 t.2)) cs tables) :
    Ends (engine cast) (cs.forM Program.perform) w (.ok ()) (w.withTables tables) := by
  induction h generalizing w with
  | nil => exact .done _
  | cons hc _ ih => exact (Ends.perform hc cast w).bind_ok (ih _)

/-- The join tables of relations, with their columns. -/
def joinsOf (className : String) (fields : List String) : List (String × List String) :=
  fields.map fun field => (Names.joinTable className field, Command.joinColumns)

theorem get?_withTables (w : Catalog) (className name : String) (fields : List String) :
    (w.withTables (joinsOf className fields)).get? name =
      (w.get? name).or (if name ∈ fields.map (Names.joinTable className) then
        some ⟨Command.joinColumns, .empty⟩ else none) := by
  induction fields generalizing w with
  | nil => simp [withTables, joinsOf]
  | cons field rest ih =>
    have hjoins : joinsOf className (field :: rest) =
        (Names.joinTable className field, Command.joinColumns) :: joinsOf className rest := rfl
    rw [hjoins, withTables_cons, ih, get?_withTable, Option.or_assoc]
    by_cases hname : name = Names.joinTable className field
    · simp [hname]
    · simp [hname]

theorem withTables_eq_self {tables : List (String × List String)}
    (h : ∀ t ∈ tables, ∃ u, w.get? t.1 = some u) : w.withTables tables = w := by
  induction tables with
  | nil => rfl
  | cons t rest ih =>
    have hfirst : w.withTable t.1 t.2 = w := withTable_eq_self (h t List.mem_cons_self)
    rw [withTables_cons, hfirst]
    exact ih fun u hu => h u (List.mem_cons_of_mem _ hu)

theorem document?_withTables (tables : List (String × List String)) (owner : String)
    (h : ∃ t, w.get? registry = some t) :
    (w.withTables tables).document? registry owner = w.document? registry owner := by
  induction tables generalizing w with
  | nil => rfl
  | cons t rest ih =>
    obtain ⟨u, hu⟩ := h
    have hu' := get?_withTable_of_some t.1 t.2 hu
    rw [withTables_cons, ih ⟨u, hu'⟩, document?, document?, hu', hu]

/-- The tables of a class are created before it is registered. -/
theorem ends_createTable (cast : String → Option Json) (hregistry : ∃ t, w.get? registry = some t)
    (schema : ClassSchema) (hcheck : ClassSchema.check { schema with className } = .ok ()) :
    ∃ columns, Ends (engine cast) (Store.createTable registry className schema) w (.ok ())
      (w.withTables ((className, columns) :: joinsOf className schema.relationFields)) := by
  obtain ⟨columns, hcolumns⟩ := Command.does_createTable className schema
  have hjoins : List.Forall₂ (fun (c : Command) t => c.Does (.createTable t.1 t.2))
      (schema.relationFields.map fun field => .createJoinTable (Names.joinTable className field))
      (joinsOf className schema.relationFields) := by
    rw [joinsOf, List.forall₂_map_left_iff, List.forall₂_map_right_iff, List.forall₂_same]
    exact fun field _ => Command.does_createJoinTable _
  have hchecked : Ends (engine cast) (.done (ClassSchema.check { schema with className })) w
      (.ok ()) w := by
    rw [hcheck]
    exact .done _
  have hensure : Ends (engine cast) (Store.ensureRegistry registry) w (.ok ()) w := by
    have hperform := Ends.perform (Command.does_createRegistry registry) cast w
    simp only [Deed.act, withTable_eq_self hregistry] at hperform
    exact .report hperform
  exact ⟨columns, .report (hchecked.bind_ok (hensure.bind_ok
    (ends_forM_perform cast w (.cons hcolumns hjoins))))⟩

/-- **Creating a class** adds the tables that are missing and then registers it. -/
theorem ends_createClass (cast : String → Option Json) (hregistry : ∃ t, w.get? registry = some t)
    (schema : ClassSchema) (hcheck : ClassSchema.check { schema with className } = .ok ()) :
    ∃ columns row,
      let made := w.withTables ((className, columns) :: joinsOf className schema.relationFields)
      let registered := (Deed.register registry className row).act cast made
      Ends (engine cast) (Store.createClass registry className schema) w
        ((Attempt.createClass.resolve className (registered.1.map Prod.fst)).map
          fun _ => ClassSchema.host { schema with className }) registered.2 := by
  obtain ⟨columns, htables⟩ := ends_createTable cast hregistry { schema with className } hcheck
  refine ⟨columns, Command.castTokens (ClassSchema.toJson { schema with className }), ?_⟩
  have hregister := Ends.executeAs .createClass className
    (Command.does_register registry className (ClassSchema.toJson { schema with className })) cast
    (w.withTables ((className, columns) :: joinsOf className schema.relationFields))
  refine .report (htables.bind_ok ?_)
  cases hresult : Attempt.createClass.resolve className _ with
  | error e =>
    rw [hresult] at hregister
    exact hregister.bind_error
  | ok n =>
    rw [hresult] at hregister
    exact hregister.bind_ok (.done _)

/-- A schema is refused for one of its names. -/
theorem check_ne_duplicateClass (schema : ClassSchema) (c : String) :
    schema.check ≠ .error (.duplicateClass c) := by
  have hfield : ∀ name, Names.checkField name ≠ .error (.duplicateClass c) := by
    intro name
    unfold Names.checkField
    split <;> simp
  have hfields : ∀ names : List String,
      names.forM Names.checkField ≠ .error (.duplicateClass c) := by
    intro names
    induction names with
    | nil => exact nofun
    | cons name rest ih =>
      intro h
      rcases Result.bind_eq_error.1 h with h | ⟨-, -, h⟩
      · exact hfield name h
      · exact ih h
  intro h
  rcases Result.bind_eq_error.1 h with h | ⟨-, -, h⟩
  · unfold Names.checkClass at h
    split at h <;> cases h
  · exact hfields _ h

/-- A second row of a class is refused. -/
theorem act_register_of_some {d : Option Json} (hrow : w.document? registry className = some d)
    (row : List Sql.Token) : (Deed.register registry className row).act cast w =
      (.error (Deed.refusal EngineError.duplicateEntry), w) := by
  cases ht : w.get? registry with
  | none => simp [document?, ht] at hrow
  | some t =>
    have hd : t.schemas.get? className = some d := by simpa [document?, ht] using hrow
    simp only [Deed.act, ht, hd]

/-- A first row of a class is not taken for a second. -/
theorem resolve_register_of_none (hnone : w.document? registry className = none)
    (row : List Sql.Token) (c : String) :
    Attempt.createClass.resolve className
      (((Deed.register registry className row).act cast w).1.map Prod.fst) ≠
        .error (.duplicateClass c) := by
  have hact : (∃ v, ((Deed.register registry className row).act cast w).1 = .ok v) ∨
      ∃ number, number ≠ EngineError.duplicateEntry ∧
        ((Deed.register registry className row).act cast w).1 = .error (Deed.refusal number) := by
    rw [Deed.act]
    cases ht : w.get? registry with
    | none => exact .inr ⟨EngineError.noSuchTable, by decide, rfl⟩
    | some t =>
      have hd : t.schemas.get? className = none := by simpa [document?, ht] using hnone
      dsimp only
      rw [hd]
      cases Deed.value? cast none row with
      | none => exact .inr ⟨Deed.noDocument, by decide, rfl⟩
      | some v =>
        cases v with
        | json d => exact .inl ⟨_, rfl⟩
        | _ => exact .inr ⟨Deed.noDocument, by decide, rfl⟩
  rcases hact with ⟨v, hv⟩ | ⟨number, hnumber, hrefused⟩
  · rw [hv]
    intro h
    cases h
  · -- only the number of a duplicate means a duplicate class
    rw [hrefused]
    simp [Except.map, Attempt.resolve, Attempt.verdict, Deed.refusal, Fault.engineNumber,
      Attempt.harmless?, Attempt.meaning, hnumber]

/-- A class that is registered is refused, behind the creation of its join tables. -/
theorem ends_createClass_of_keeps (cast : String → Option Json) (h : w.Keeps registry className)
    (schema : ClassSchema) (hcheck : ClassSchema.check { schema with className } = .ok ()) :
    Ends (engine cast) (Store.createClass registry className schema) w
      (.error (.duplicateClass className))
      (w.withTables (joinsOf className schema.relationFields)) := by
  obtain ⟨columns, row, hends⟩ := ends_createClass cast h.exists_registry schema hcheck
  obtain ⟨d, hd, -⟩ := h.row
  have hrow := (document?_withTables
    ((className, columns) :: joinsOf className schema.relationFields) className
    h.exists_registry).trans hd
  have htable : w.withTable className columns = w := withTable_eq_self h.table
  simp only [act_register_of_some hrow] at hends
  rw [withTables_cons, htable] at hends
  exact hends

/-- A class that meets another is registered, and its missing join tables are left behind. -/
theorem ends_createClass_of_isConsistent (cast : String → Option Json) (h : w.IsConsistent registry)
    (className : String) (schema : ClassSchema) :
    ∃ result w', Ends (engine cast) (Store.createClass registry className schema) w result w' ∧
      ∀ c, result = .error (.duplicateClass c) →
        (∃ d, w.document? registry className = some d) ∧
          w' = w.withTables (joinsOf className schema.relationFields) := by
  cases hcheck : ClassSchema.check { schema with className } with
  | error e =>
    have hchecked : Ends (engine cast) (.done (ClassSchema.check { schema with className })) w
        (.error e) w := by
      rw [hcheck]
      exact .done _
    have hcreate : Ends (engine cast)
        (Store.createTable registry className { schema with className }) w (.error e) w :=
      .report hchecked.bind_error
    refine ⟨_, _, .report hcreate.bind_error, fun c hcontra => ?_⟩
    rw [Except.error.inj hcontra] at hcheck
    exact absurd hcheck (check_ne_duplicateClass _ c)
  | ok _ =>
    cases hrow : w.document? registry className with
    | none =>
      obtain ⟨columns, row, hends⟩ := ends_createClass cast h.hasRegistry schema hcheck
      refine ⟨_, _, hends, fun c hcontra => ?_⟩
      exact absurd (Result.map_eq_error.1 hcontra)
        (resolve_register_of_none ((document?_withTables _ _ h.hasRegistry).trans hrow) row c)
    | some d =>
      have hkeeps := (h.agrees className d hrow).keeps hrow
      exact ⟨_, _, ends_createClass_of_keeps cast hkeeps schema hcheck, fun _ _ => ⟨⟨d, rfl⟩, rfl⟩⟩

/-! ### What conflicts leave behind -/

/-- **What a conflict leaves behind.**  Over a catalog in which tables and registry agree, an
addition that reports an existing field has at most made a place for the field.  The registry is as
before, and so are the tables if the field that is registered needs the same kind of place, a column
or a join table, as the one that is asked for.  The creation of a class that reports a duplicate has
added the join tables that the relation fields of the given schema did not have yet, and no more. -/
theorem conflicts_leave (cast : String → Option Json) (registry : String)
    (s : Session Catalog Unit) (h : s.world.IsConsistent registry) :
    (∀ className field type c f,
      let refused := (Store.addField registry className field type).run (engine cast) s
      refused.2 = .error (.fieldAlreadyExists c f) →
        ∃ registered, s.world.registered? registry className field = some registered ∧
          registered ≠ type ∧
          refused.1.world = s.world.withPlace className field type ∧
          (∀ owner, refused.1.world.document? registry owner = s.world.document? registry owner) ∧
          (registered.isRelation = type.isRelation → refused.1.world = s.world)) ∧
    ∀ className schema c,
      let refused := (Store.createClass registry className schema).run (engine cast) s
      refused.2 = .error (.duplicateClass c) →
        (∃ d, s.world.document? registry className = some d) ∧
        (∀ name, refused.1.world.get? name = (s.world.get? name).or
          (if name ∈ schema.relationFields.map (Names.joinTable className) then
            some ⟨Command.joinColumns, .empty⟩ else none)) ∧
        ((∀ field ∈ schema.relationFields, ∃ type,
          s.world.registered? registry className field = some type ∧ type.isRelation = true) →
            refused.1.world = s.world) := by
  constructor
  · intro className field type c f refused hrefused
    obtain ⟨result, w', hends, hleaves⟩ := ends_addField_of_isConsistent cast h className field type
    obtain ⟨rfl, rfl⟩ := hends s rfl
    obtain ⟨registered, hregistered, hne, hworld⟩ := hleaves c f hrefused
    refine ⟨registered, hregistered, hne, hworld, fun owner => ?_, fun hkind => ?_⟩
    · exact (congrArg (document? · registry owner) hworld).trans (document?_withPlace h.hasRegistry)
    · -- the place of the registered field serves
      obtain ⟨d, hd, htype⟩ := Option.bind_eq_some_iff.1 hregistered
      have hplace := (h.agrees className d hd).hasPlace htype hkind
      exact hworld.trans (withPlace_eq_self hplace)
  · intro className schema c refused hrefused
    obtain ⟨result, w', hends, hleaves⟩ := ends_createClass_of_isConsistent cast h className schema
    obtain ⟨rfl, rfl⟩ := hends s rfl
    obtain ⟨⟨d, hd⟩, hworld⟩ := hleaves c hrefused
    refine ⟨⟨d, hd⟩, fun name => ?_, fun hrelations => ?_⟩
    · exact (congrArg (Dict.get? · name) hworld).trans (get?_withTables _ _ _ _)
    · refine hworld.trans (withTables_eq_self fun t ht => ?_)
      obtain ⟨field, hfield, rfl⟩ := List.mem_map.1 ht
      obtain ⟨type, hregistered, hrelation⟩ := hrelations field hfield
      obtain ⟨d', hd', htype⟩ := Option.bind_eq_some_iff.1 hregistered
      exact ((h.agrees className d' hd').joins field).2 ⟨type, htype, hrelation⟩

/-- The schema document of widgets: their fans are a text, their parts a relation. -/
def widgetFields : Json :=
  .obj [("fields", .obj [("fans", FieldType.string.toJson),
    ("parts", (FieldType.relation "Part").toJson)])]

/-- Widgets with their table and the join table of their parts. -/
def widgets : Catalog :=
  .ofList [("Widget", ⟨storageColumns "Widget" ++ ["fans"], .empty⟩),
    (Names.joinTable "Widget" "parts", ⟨Command.joinColumns, .empty⟩),
    ("_SCHEMA", ⟨Command.registryColumns, .ofList [("Widget", some widgetFields)]⟩)]

theorem typeIn?_widgetFields {field : String} {type : FieldType} :
    typeIn? (some widgetFields) field = some type ↔
      field = "fans" ∧ type = .string ∨ field = "parts" ∧ type = .relation "Part" := by
  have hmember : widgetFields.at? ["fields", field] =
      List.lookup field [("fans", FieldType.string.toJson),
        ("parts", (FieldType.relation "Part").toJson)] := by
    simp [widgetFields, Json.at?, Object.get?]
  rw [typeIn?, Option.bind_some, hmember]
  by_cases hfans : field = "fans"
  · simp [hfans, FieldType.ofJson?_toJson, eq_comm]
  · by_cases hparts : field = "parts"
    · simp [hparts, List.lookup_cons, FieldType.ofJson?_toJson, eq_comm]
    · have hfans' : (field == "fans") = false := beq_false_of_ne hfans
      have hparts' : (field == "parts") = false := beq_false_of_ne hparts
      simp [List.lookup_cons, hfans, hfans', hparts, hparts']

/-- The parts alone have a join table. -/
theorem exists_get?_widgets_joinTable {field : String} :
    (∃ t, widgets.get? (Names.joinTable "Widget" field) = some t) ↔ field = "parts" := by
  constructor
  · rintro ⟨t, ht⟩
    have hjoin := Names.isJoinTable_joinTable "Widget" field
    have hmem := Dict.get?_eq_some_iff.1 ht
    have honly : ∀ e ∈ widgets.entries, Names.isJoinTable e.1 = true →
        e.1 = Names.joinTable "Widget" "parts" := by decide +kernel
    exact Names.joinTable_right_inj.1 (honly _ hmem hjoin)
  · rintro rfl
    exact ⟨_, rfl⟩

theorem widgets_isConsistent : widgets.IsConsistent "_SCHEMA" where
  hasRegistry := ⟨_, rfl⟩
  agrees := by
    intro owner d hd
    obtain ⟨rfl, rfl⟩ : owner = "Widget" ∧ d = some widgetFields := by
      change List.lookup owner [("Widget", some widgetFields)] = some d at hd
      rw [List.lookup_cons] at hd
      split at hd
      · next howner => exact ⟨beq_iff_eq.1 howner, (Option.some.inj hd).symm⟩
      · cases hd
    refine ⟨⟨⟨_, rfl⟩, _, rfl, fun name v hv => ?_⟩, ⟨_, rfl, fun column => ?_⟩, fun field => ?_⟩
    · change List.lookup name [("fans", FieldType.string.toJson),
        ("parts", (FieldType.relation "Part").toJson)] = some v at hv
      rw [List.lookup_cons] at hv
      split at hv
      · exact ⟨.string, (Option.some.inj hv).symm⟩
      · rw [List.lookup_cons] at hv
        split at hv
        · exact ⟨.relation "Part", (Option.some.inj hv).symm⟩
        · cases hv
    · simp [typeIn?_widgetFields, FieldType.isRelation, or_and_right, exists_or]
    · rw [exists_get?_widgets_joinTable]
      simp [typeIn?_widgetFields, FieldType.isRelation, or_and_right, exists_or]

/-- **Conflicts leave something behind.**  Asking for the fans of widgets as a relation is refused
and leaves a join table, and so does creating the class again with a relation. -/
theorem not_unchanged_of_conflict :
    widgets.IsConsistent "_SCHEMA" ∧
      (let refused := (Store.addField "_SCHEMA" "Widget" "fans" (.relation "_User")).run
        (engine Json.read?) (.opened "" () widgets)
      refused.2 = .error (.fieldAlreadyExists "Widget" "fans") ∧ refused.1.world ≠ widgets) ∧
      let refused := (Store.createClass "_SCHEMA" "Widget"
        ((ClassSchema.named "Widget").field "makers" (.relation "_User"))).run
        (engine Json.read?) (.opened "" () widgets)
      refused.2 = .error (.duplicateClass "Widget") ∧ refused.1.world ≠ widgets := by
  have hregistered : widgets.registered? "_SCHEMA" "Widget" "fans" = some .string := rfl
  have hrow : widgets.document? "_SCHEMA" "Widget" = some (some widgetFields) := rfl
  have hkeeps := (widgets_isConsistent.agrees "Widget" _ hrow).keeps hrow
  refine ⟨widgets_isConsistent, ?_, ?_⟩
  · obtain ⟨hresult, hworld⟩ := ends_addField_of_some Json.read? rfl hkeeps hregistered
      (.relation "_User") (.opened "" () widgets) rfl
    refine ⟨hresult, ?_⟩
    rw [hworld]
    decide
  · obtain ⟨hresult, hworld⟩ := ends_createClass_of_keeps Json.read? hkeeps
      ((ClassSchema.named "Widget").field "makers" (.relation "_User")) rfl
      (.opened "" () widgets) rfl
    refine ⟨hresult, ?_⟩
    rw [hworld]
    decide

/-- The fans cannot be made a number, and nothing changes.  Widgets cannot be created again: that
leaves a join table behind if they are to have makers, and nothing if they are to have parts. -/
theorem conflicts_leave_widgets :
    widgets.IsConsistent "_SCHEMA" ∧
      (let refused := (Store.addField "_SCHEMA" "Widget" "fans" .number).run (engine Json.read?)
        (.opened "" () widgets)
      refused.2 = .error (.fieldAlreadyExists "Widget" "fans") ∧ refused.1.world = widgets) ∧
      (let refused := (Store.createClass "_SCHEMA" "Widget"
        ((ClassSchema.named "Widget").field "makers" (.relation "_User"))).run
        (engine Json.read?) (.opened "" () widgets)
      refused.2 = .error (.duplicateClass "Widget") ∧
        refused.1.world.get? (Names.joinTable "Widget" "makers") =
          some ⟨Command.joinColumns, .empty⟩ ∧
        refused.1.world.get? "Widget" = widgets.get? "Widget") ∧
      let refused := (Store.createClass "_SCHEMA" "Widget"
        ((ClassSchema.named "Widget").field "parts" (.relation "Part"))).run
        (engine Json.read?) (.opened "" () widgets)
      refused.2 = .error (.duplicateClass "Widget") ∧ refused.1.world = widgets := by
  have hregistered : widgets.registered? "_SCHEMA" "Widget" "fans" = some .string := rfl
  have hrow : widgets.document? "_SCHEMA" "Widget" = some (some widgetFields) := rfl
  have hkeeps := (widgets_isConsistent.agrees "Widget" _ hrow).keeps hrow
  refine ⟨widgets_isConsistent, ?_, ?_, ?_⟩
  · obtain ⟨hresult, -⟩ := ends_addField_of_some Json.read? rfl hkeeps hregistered .number
      (.opened "" () widgets) rfl
    obtain ⟨registered, hregistered', -, -, -, hsame⟩ := (conflicts_leave Json.read? "_SCHEMA"
      (.opened "" () widgets) widgets_isConsistent).1 "Widget" "fans" .number "Widget" "fans"
        hresult
    obtain rfl : FieldType.string = registered := Option.some.inj hregistered'
    exact ⟨hresult, hsame rfl⟩
  · obtain ⟨hresult, -⟩ := ends_createClass_of_keeps Json.read? hkeeps
      ((ClassSchema.named "Widget").field "makers" (.relation "_User")) rfl
      (.opened "" () widgets) rfl
    obtain ⟨-, htables, -⟩ := (conflicts_leave Json.read? "_SCHEMA" (.opened "" () widgets)
      widgets_isConsistent).2 "Widget" _ "Widget" hresult
    exact ⟨hresult, (htables _).trans (by decide +kernel), (htables _).trans (by decide +kernel)⟩
  · obtain ⟨hresult, -⟩ := ends_createClass_of_keeps Json.read? hkeeps
      ((ClassSchema.named "Widget").field "parts" (.relation "Part")) rfl
      (.opened "" () widgets) rfl
    obtain ⟨-, -, hsame⟩ := (conflicts_leave Json.read? "_SCHEMA" (.opened "" () widgets)
      widgets_isConsistent).2 "Widget" _ "Widget" hresult
    have hregistered' : ∀ field ∈ ["parts"], ∃ type,
        widgets.registered? "_SCHEMA" "Widget" field = some type ∧ type.isRelation = true := by
      intro field hfield
      obtain rfl := List.mem_singleton.1 hfield
      exact ⟨.relation "Part", rfl, rfl⟩
    exact ⟨hresult, hsame hregistered'⟩

end Catalog

end DocStore
