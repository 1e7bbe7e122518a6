import DocStore.Proofs.Command.Condition
import DocStore.Proofs.Document.Keys
import DocStore.Schema.Column

/-!
# Columns that commands name

The names in a statement are those of its table and of columns.  The condition of a query names the
columns of the fields that it is about, as far as the schema knows them (`Query.names_whereClause`),
and a selection names those of its keys behind them.

A field of the schema has a column unless it is a relation (`ClassSchema.mem_columns_iff`).  So
every column that is named exists if the query and the keys are about no relation
(`Query.names_of_commands`), and a relation among them is named all the same
(`Query.not_names_created`).
-/

namespace DocStore

open Sql

/-- The name that a parameter is. -/
def Sql.Param.name? : Param → Option String
  | .ident name => some name
  | .value _ | .json _ | .raw _ => none

/-- The names among parameters in order. -/
def Sql.Param.names (params : List Param) : List String := params.filterMap Param.name?

/-- The names in a statement in order. -/
def Sql.Statement.names (s : Statement) : List String := Param.names s.params

namespace Sql.Param

variable {params more : List Param}

@[simp] theorem names_nil : names [] = [] := rfl

@[simp] theorem names_ident (name : String) :
    names (.ident name :: params) = name :: names params := rfl

@[simp] theorem names_value (v : Json) : names (.value v :: params) = names params := rfl

@[simp] theorem names_json (v : Json) : names (.json v :: params) = names params := rfl

@[simp] theorem names_text (s : String) : names (.text s :: params) = names params := rfl

@[simp] theorem names_append : names (params ++ more) = names params ++ names more :=
  List.filterMap_append

theorem names_map_ident (columns : List String) : names (columns.map .ident) = columns := by
  induction columns with
  | nil => rfl
  | cons c rest ih => rw [List.map_cons, names_ident, ih]

theorem names_flatMap {α : Type} (f : α → List Param) (as : List α) :
    names (as.flatMap f) = as.flatMap fun a => names (f a) :=
  List.filterMap_flatMap

theorem names_eq_nil_of_map {α : Type} {f : α → Param} (h : ∀ a, (f a).name? = none)
    (as : List α) : names (as.map f) = [] := by
  rw [names, List.filterMap_eq_nil_iff, List.forall_mem_map]
  exact fun a _ => h a

end Sql.Param

open Param (names)

/-! ### Names in conditions -/

theorem Target.names_params (x : Target) : names x.params = [x.column] := by
  unfold params
  split <;> rfl

theorem Test.names_params (t : Test) : names t.params = [] := by
  induction t with
  | always | isNull | isPresent | scalar | holds | lacks | atPoint | notAtPoint | regex | text |
    inBox | inPolygon => rfl
  | among operands | notAmong operands => exact Param.names_eq_nil_of_map (fun _ => rfl) operands
  | holdsAny items | holdsNone items => exact Param.names_eq_nil_of_map (fun _ => rfl) items
  | near origin reach => cases reach <;> rfl
  | orNull test ih | nullOr test ih | presentAnd test ih => exact ih

namespace WhereClause

theorem names_ofTests (x : Target) (tests : List Test) :
    names (ofTests x tests).params = [x.column] := by
  have htests : names (tests.flatMap Test.params) = [] := by
    simp [Param.names_flatMap, Test.names_params]
  rw [ofTests, Param.names_append, Target.names_params, htests]
  rfl

theorem names_join (separator : String) (ws : List WhereClause) :
    names (join separator ws).params = ws.flatMap fun w => names w.params := by
  induction ws with
  | nil => rfl
  | cons w rest ih =>
    cases rest with
    | nil => simp [join]
    | cons u rest =>
      have hjoin : join separator (w :: u :: rest) =
          w.beside separator (join separator (u :: rest)) := rfl
      rw [hjoin, List.flatMap_cons, ← ih]
      exact Param.names_append

end WhereClause

mutual

/-- The columns that a clause is about. -/
def RowClause.columns : RowClause → List String
  | .tests target _ => [target.column]
  | .group _ filters => RowClause.groupColumns filters

/-- The columns that the clauses of a filter are about. -/
def RowClause.allColumns : List RowClause → List String
  | [] => []
  | c :: cs => c.columns ++ RowClause.allColumns cs

/-- The columns that the filters of a group are about. -/
def RowClause.groupColumns : List (List RowClause) → List String
  | [] => []
  | f :: fs => RowClause.allColumns f ++ RowClause.groupColumns fs

end

mutual

theorem RowClause.names_whereClause : (c : RowClause) → names c.whereClause.params = c.columns
  | .tests target applied => by
    rw [whereClause, columns]
    exact WhereClause.names_ofTests target applied
  | .group connective filters => by
    rw [whereClause, columns, ← RowClause.names_groupParts filters]
    exact WhereClause.names_join _ _

theorem RowClause.names_clauseParts : (cs : List RowClause) →
    ((RowClause.clauseParts cs).flatMap fun w => names w.params) = RowClause.allColumns cs
  | [] => by rw [clauseParts, allColumns, List.flatMap_nil]
  | c :: cs => by
    rw [clauseParts, allColumns, List.flatMap_cons, c.names_whereClause, names_clauseParts cs]

theorem RowClause.names_groupParts : (fs : List (List RowClause)) →
    ((RowClause.groupParts fs).flatMap fun w => names w.params) = RowClause.groupColumns fs
  | [] => by rw [groupParts, groupColumns, List.flatMap_nil]
  | f :: fs => by
    rw [groupParts, groupColumns, List.flatMap_cons, names_groupParts fs, ← names_clauseParts f,
      ← WhereClause.names_join " AND "]
    rfl

end

/-! ### Names in queries -/

mutual

/-- The columns that a clause of a query is about, as far as the schema knows them. -/
def Clause.columns (storage : ClassSchema) : Clause → List String
  | .field name _ =>
    if (storage.fieldType? (Target.ofName name).column).isSome then [(Target.ofName name).column]
    else []
  | .connect _ queries => Clause.groupColumns storage queries

/-- The known columns that the clauses of a query are about. -/
def Clause.allColumns (storage : ClassSchema) : List Clause → List String
  | [] => []
  | c :: cs => c.columns storage ++ Clause.allColumns storage cs

/-- The known columns that connected queries are about. -/
def Clause.groupColumns (storage : ClassSchema) : List (List Clause) → List String
  | [] => []
  | q :: qs => Clause.allColumns storage q ++ Clause.groupColumns storage qs

end

/-- The columns that a query is about, as far as the schema knows them. -/
def Query.columns (schema : ClassSchema) (q : Query) : List String :=
  Clause.allColumns schema.storage q

variable {storage : ClassSchema}

theorem Clause.columns_lowerField {name : String} {constraints : List Constraint}
    {lowered : Option RowClause} (h : lowerField storage name constraints = .ok lowered) :
    RowClause.allColumns lowered.toList = (Clause.field name constraints).columns storage := by
  rw [lowerField] at h
  rw [columns]
  cases htype : storage.fieldType? (Target.ofName name).column with
  | none =>
    simp only [htype] at h
    split at h
    · cases h
      rfl
    · cases h
  | some type =>
    simp only [htype] at h
    split at h
    · cases h
    · obtain ⟨tests, -, h⟩ := Result.bind_eq_ok.1 h
      cases h
      rfl

theorem RowClause.allColumns_append (f g : List RowClause) :
    allColumns (f ++ g) = allColumns f ++ allColumns g := by
  induction f with
  | nil => rfl
  | cons c rest ih => simp [allColumns, ih]

mutual

theorem Clause.columns_lower : (c : Clause) → {lowered : Option RowClause} →
    c.lower storage = .ok lowered → RowClause.allColumns lowered.toList = c.columns storage
  | .field name constraints, lowered, h => by
    rw [lower] at h
    exact columns_lowerField h
  | .connect connective queries, lowered, h => by
    rw [lower] at h
    obtain ⟨filters, hfilters, rfl⟩ := Result.map_eq_ok.1 h
    simp [RowClause.allColumns, RowClause.columns, columns, columns_lowerGroup queries hfilters]

theorem Clause.columns_lowerAll : (cs : List Clause) → {f : Filter} →
    Clause.lowerAll storage cs = .ok f → RowClause.allColumns f = Clause.allColumns storage cs
  | [], f, h => by
    cases h
    rfl
  | c :: cs, f, h => by
    obtain ⟨first, hfirst, h⟩ := Result.bind_eq_ok.1 h
    obtain ⟨others, hothers, h⟩ := Result.bind_eq_ok.1 h
    cases h
    rw [RowClause.allColumns_append, columns_lower c hfirst, columns_lowerAll cs hothers]
    rfl

theorem Clause.columns_lowerGroup : (qs : List (List Clause)) → {fs : List Filter} →
    Clause.lowerGroup storage qs = .ok fs →
      RowClause.groupColumns fs = Clause.groupColumns storage qs
  | [], fs, h => by
    cases h
    rfl
  | q :: qs, fs, h => by
    obtain ⟨first, hfirst, h⟩ := Result.bind_eq_ok.1 h
    obtain ⟨others, hothers, h⟩ := Result.bind_eq_ok.1 h
    cases h
    rw [RowClause.groupColumns, columns_lowerAll q hfirst, columns_lowerGroup qs hothers]
    rfl

end

mutual

/-- The schema knows the columns that a clause is about. -/
theorem Clause.isSome_of_mem_columns {name : String} : (c : Clause) → name ∈ c.columns storage →
    (storage.fieldType? name).isSome = true
  | .field _ _, h => by
    rw [columns] at h
    split at h
    · next hknown =>
      obtain rfl := List.mem_singleton.1 h
      exact hknown
    · cases h
  | .connect connective queries, h => by
    rw [columns] at h
    exact isSome_of_mem_groupColumns queries h

theorem Clause.isSome_of_mem_allColumns {name : String} : (cs : List Clause) →
    name ∈ Clause.allColumns storage cs → (storage.fieldType? name).isSome = true
  | [], h => by cases h
  | c :: cs, h => by
    rcases List.mem_append.1 h with h | h
    · exact isSome_of_mem_columns c h
    · exact isSome_of_mem_allColumns cs h

theorem Clause.isSome_of_mem_groupColumns {name : String} : (qs : List (List Clause)) →
    name ∈ Clause.groupColumns storage qs → (storage.fieldType? name).isSome = true
  | [], h => by cases h
  | q :: qs, h => by
    rcases List.mem_append.1 h with h | h
    · exact isSome_of_mem_allColumns q h
    · exact isSome_of_mem_groupColumns qs h

end

/-! ### Columns of tables -/

namespace ClassSchema

variable {s : ClassSchema} {name : String}

/-- A relation has no column, unless it takes the name of the identifier. -/
def LacksColumn (s : ClassSchema) (name : String) : Prop :=
  name ≠ "objectId" ∧ (s.storage.fieldType? name).any FieldType.isRelation = true

/-- **The fields that have a column** are the identifier and those that are no relations. -/
theorem mem_columns_iff : name ∈ s.columns.map Column.name ↔ name = "objectId" ∨
    ∃ type, s.storage.fieldType? name = some type ∧ type.isRelation = false := by
  have hfield : ∀ type, s.storage.fieldType? name = some type ↔
      (name, type) ∈ s.storage.fields.entries := fun type =>
    lookup_eq_some_iff s.storage.fields.nodup_keys
  simp only [hfield, columns, List.map_cons, List.mem_cons, List.map_map]
  refine or_congr_right' fun hne => ?_
  have hname : name ≠ "objectId" := hne
  simp [Column.ofField, hname]

theorem mem_columns_iff_of_known (h : (s.storage.fieldType? name).isSome = true) :
    name ∈ s.columns.map Column.name ↔ ¬ s.LacksColumn name := by
  obtain ⟨type, htype⟩ := Option.isSome_iff_exists.1 h
  rw [mem_columns_iff, LacksColumn]
  simp [htype, or_iff_not_imp_left]

end ClassSchema

/-! ### Names in commands -/

theorem Selection.names_statement (className : String) {s : Selection} (h : s.order = []) :
    (s.statement className).names =
      className :: (names s.filter.whereClause.params ++ s.columns ++
        s.scoreRead.toList.map fun _ => "score") := by
  have hwished : s.wished = [] := by
    rw [Selection.wished, h, ite_self]
  have hcounts : names (s.counts.map fun e => Selection.countParam e.2) = [] :=
    Param.names_eq_nil_of_map (fun _ => rfl) s.counts
  rw [Statement.names, Selection.params_statement, hwished]
  cases s.scoreRead <;> simp [hcounts, Param.names_map_ident, Selection.placed]

theorem Step.names_params (s : Step) : names s.params = [] := by
  have hpaths : ∀ paths : List (List String), names (paths.map pathParam) = [] :=
    Param.names_eq_nil_of_map fun _ => rfl
  have hpath : ∀ path more, names (pathParam path :: more) = names more := fun _ _ => rfl
  cases s with
  | put e => cases e <;> rfl
  | increment | appendUnique | remove => rfl
  | append items => exact Param.names_eq_nil_of_map (fun _ => rfl) items
  | removeMembers paths => exact hpaths paths
  | addMembers amounts | setMembers values =>
    simp [params, hpaths, hpath, Param.names_flatMap]
  | setProviders entries =>
    have hprovider : ∀ e : String × Option Json, names (providerParams e) = [] := by
      rintro ⟨name, value⟩
      cases value <;> rfl
    simp [params, hprovider, Param.names_flatMap]

theorem SetClause.names_ofChanges (made : List Change) :
    names (ofChanges made).params = made.map Change.column := by
  induction made with
  | nil => rfl
  | cons c rest ih =>
    simp [ofChanges, ofChange, ih, Param.names_flatMap, Step.names_params]

namespace Query

variable {schema : ClassSchema} {q : Query} {f : Filter} {options : FindOptions}

theorem isSome_of_mem_projectedColumns {name : String} {keys : List String}
    (h : name ∈ projectedColumns storage keys) : (storage.fieldType? name).isSome = true := by
  rw [projectedColumns, List.mem_eraseDups] at h
  exact (List.mem_filter.1 h).2

/-- The condition of a query names the columns that it is about. -/
theorem names_whereClause (h : q.filter schema = .ok f) :
    names f.whereClause.params = q.columns schema := by
  rw [Filter.whereClause, WhereClause.names_join, RowClause.names_clauseParts]
  exact Clause.columns_lowerAll q h

/-- Without an order that is asked for, a selection has none but that of its condition. -/
theorem order_of_select {s : Selection} (hsort : options.sort = [])
    (h : q.select schema options = .ok s) :
    s.order = [] ∧ s.columns = projectedColumns schema.storage options.keys := by
  obtain ⟨f, -, h⟩ := Result.bind_eq_ok.1 h
  rw [hsort] at h
  dsimp only at h
  split at h
  · obtain ⟨order, horder, h⟩ := Result.bind_eq_ok.1 h
    cases horder
    cases h
    exact ⟨rfl, rfl⟩
  · cases h
    exact ⟨rfl, rfl⟩

/-- **Commands name the columns that their query and their keys are about**, behind the table, and a
column that is named has been created unless it belongs to a relation. -/
theorem names_of_commands (className : String) (schema : ClassSchema) (q : Query) (u : Update)
    (options : FindOptions) :
    (∀ c, options.sort = [] → selectCommand className schema q options = .ok c → ∃ score,
      (score = [] ∨ score = ["score"]) ∧ c.toStatement.names =
        className :: (q.columns schema ++ projectedColumns schema.storage options.keys ++ score)) ∧
    (∀ c, countCommand className schema q = .ok c →
      c.toStatement.names = className :: q.columns schema) ∧
    (∀ c, deleteCommand className schema q = .ok c →
      c.toStatement.names = className :: q.columns schema) ∧
    (∀ c, updateCommand className schema q u = .ok c → ∃ made, u.changes schema = .ok made ∧
      c.toStatement.names = className :: (made.map Change.column ++ q.columns schema)) ∧
    ∀ name ∈ q.columns schema ++ projectedColumns schema.storage options.keys,
      name ∈ schema.columns.map Column.name ↔ ¬ schema.LacksColumn name := by
  refine ⟨fun c hsort hc => ?_, fun c hc => ?_, fun c hc => ?_, fun c hc => ?_,
    fun name hname => ?_⟩
  · obtain ⟨s, hs, rfl⟩ := selectCommand_eq_ok.1 hc
    obtain ⟨horder, hcolumns⟩ := order_of_select hsort hs
    refine ⟨s.scoreRead.toList.map fun _ => "score", ?_, ?_⟩
    · cases s.scoreRead <;> simp
    · rw [Command.toStatement, s.names_statement className horder, hcolumns,
        names_whereClause (filter_of_select hs)]
  · obtain ⟨f, hf, rfl⟩ := countCommand_eq_ok.1 hc
    simp [Command.toStatement, Statement.names, Statement.countRows, names_whereClause hf]
  · obtain ⟨f, hf, rfl⟩ := deleteCommand_eq_ok.1 hc
    simp [Command.toStatement, Statement.names, Statement.deleteRows, names_whereClause hf]
  · obtain ⟨made, f, hmade, hf, rfl⟩ := updateCommand_eq_ok.1 hc
    refine ⟨made, hmade, ?_⟩
    simp [Command.toStatement, Statement.names, Statement.updateRows, names_whereClause hf,
      SetClause.names_ofChanges]
  · refine ClassSchema.mem_columns_iff_of_known ?_
    rcases List.mem_append.1 hname with hname | hname
    · exact Clause.isSome_of_mem_allColumns q hname
    · exact isSome_of_mem_projectedColumns hname

/-- A class with a column for places and one for providers, and with a relation. -/
def fanSchema : ClassSchema :=
  (((ClassSchema.named "Club").field "place" .object).field "authData" .object).field "fans"
    (.relation "_User")

/-- A query about a provider, a place and a field that is not known. -/
def fanQuery : Query :=
  [.field "_auth_data_site.id" [.equals (.str "1")],
    .connect .or [[.field "place.city" [.equals (.str "Rome")]], [.field "gone" [.present false]]]]

/-- Two keys of one column, one that is not known, and the column for permissions. -/
def fanOptions : FindOptions :=
  { FindOptions.none with keys := ["place.city", "place", "gone", "_rperm"] }

theorem names_of_commands_fan :
    ∃ c score, fanOptions.sort = [] ∧ selectCommand "Club" fanSchema fanQuery fanOptions = .ok c ∧
      c.toStatement.names = ["Club", "authData", "place", "place", "_rperm"] ++ score ∧
      (score = [] ∨ score = ["score"]) ∧
      ∀ name ∈ ["authData", "place", "_rperm"], name ∈ fanSchema.columns.map Column.name := by
  obtain ⟨c, hc⟩ : ∃ c, selectCommand "Club" fanSchema fanQuery fanOptions = .ok c := ⟨_, rfl⟩
  have hcolumns : fanQuery.columns fanSchema = ["authData", "place"] := by decide +kernel
  have hkeys : projectedColumns fanSchema.storage fanOptions.keys = ["place", "_rperm"] := by
    decide +kernel
  obtain ⟨hselect, -, -, -, hcreated⟩ :=
    names_of_commands "Club" fanSchema fanQuery [] fanOptions
  obtain ⟨score, hscore, hnames⟩ := hselect c rfl hc
  rw [hcolumns, hkeys] at hnames hcreated
  refine ⟨c, score, rfl, hc, hnames, hscore, fun name hname => (hcreated name ?_).2 ?_⟩
  · revert name
    decide
  · revert name
    unfold ClassSchema.LacksColumn
    decide +kernel

/-- A relation is named by a selection and by a condition, and has no column. -/
theorem not_names_created :
    "fans" ∉ fanSchema.columns.map Column.name ∧
      (selectCommand "Club" fanSchema [] { FindOptions.none with keys := ["fans"] }).bind
          Command.render = .ok "SELECT `fans` FROM `Club` WHERE TRUE" ∧
      (countCommand "Club" fanSchema [.field "fans" [.present true]]).bind Command.render =
        .ok "SELECT COUNT(*) AS `count` FROM `Club` WHERE `fans` IS NOT NULL" ∧
      ¬ ∀ className schema q c, countCommand className schema q = .ok c →
        ∀ name ∈ c.toStatement.names, name = className ∨ name ∈ schema.columns.map Column.name := by
  have hfans : "fans" ∉ fanSchema.columns.map Column.name := by decide +kernel
  refine ⟨hfans, by decide +kernel, by decide +kernel, fun hall => ?_⟩
  have hcount : countCommand "Club" fanSchema [.field "fans" [.present true]] =
      .ok (.count "Club" [.tests ⟨"fans", []⟩ [.isPresent]]) := rfl
  rcases hall _ _ _ _ hcount "fans" (by decide +kernel) with hname | hmem
  · exact absurd hname (by decide)
  · exact hfans hmem

end Query

end DocStore
