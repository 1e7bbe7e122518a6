import DocStore.Proofs.Command.Assignments
import DocStore.Proofs.Command.Names
import DocStore.Proofs.Store.Assigning

/-!
# Relations in updates

A relation is kept in a join table, and the table of its class has no column for it.  An entry of an
update that is about a relation is read as one that changes nothing here, whatever its operand is,
with two exceptions: `null` clears the field before its type is looked at, and the key of a provider
is about `authData` whatever the type of that field is.  So an update assigns to a relation if and
only if it has such an entry (`Update.assigned_relation_iff`, `Update.not_unassigned_relation`).
-/

namespace DocStore

open Sql

/-- A change is assigned if it has steps. -/
theorem Change.assignments_eq_nil_iff {change : Change} :
    change.assignments = [] ↔ change.steps = [] := by
  have htexts : change.texts = [] ↔ change.steps = [] := by
    obtain ⟨column, steps⟩ := change
    cases steps <;> simp [Change.texts, SetClause.ofChange, Step.assignments]
  rw [← htexts, Change.assignments, List.filterMap_eq_nil_iff]
  constructor
  · intro hnone
    refine List.eq_nil_iff_forall_not_mem.2 fun text htext => ?_
    obtain ⟨a, ha, -⟩ := Change.reads_texts htext
    exact Option.some_ne_none a (ha.symm.trans (hnone text htext))
  · intro hnone text htext
    rw [hnone] at htext
    cases htext

/-- A relation has no column; the identifier has one whatever its type is. -/
theorem ClassSchema.not_mem_columns_of_relation {schema : ClassSchema} {field : String}
    {type : FieldType} (htype : schema.storage.fieldType? field = some type)
    (hrelation : type.isRelation = true) (hother : field ≠ "objectId") :
    field ∉ schema.columns.map Column.name := by
  rw [mem_columns_iff, htype]
  simp [hother, hrelation]

namespace Update

variable {schema storage : ClassSchema} {u : Update} {o : Object} {made : List Change}
  {e : String × Json} {c : Contribution} {field column : String} {type : FieldType} {start : Nat}
  {front : List Param} {s : SetClause}

/-! ### Operators that assign -/

/-- A column has an assignment if one of its operators assigns. -/
theorem exists_assignment_iff (h : ofObject schema o = .ok u) (hmade : u.changes schema = .ok made)
    (column : String) : (∃ a ∈ made.flatMap Change.assignments, a.column = column) ↔
      ∃ x ∈ u, Assigns column x := by
  rw [← exists_steps_iff (ne_patch_empty h) hmade]
  constructor
  · rintro ⟨a, ha, rfl⟩
    obtain ⟨change, hchange, hmem⟩ := List.mem_flatMap.1 ha
    refine ⟨change, hchange, (Change.of_mem_assignments hmem).1.symm, fun hnone => ?_⟩
    rw [Change.assignments_eq_nil_iff.2 hnone] at hmem
    cases hmem
  · rintro ⟨change, hchange, rfl, hsteps⟩
    obtain ⟨a, ha⟩ := List.exists_mem_of_ne_nil _ (Change.assignments_eq_nil_iff.not.2 hsteps)
    exact ⟨a, List.mem_flatMap.2 ⟨change, hchange, ha⟩, (Change.of_mem_assignments ha).1⟩

/-- A contribution lets a column have an assignment if it would on its own. -/
theorem exists_assigns_addTo_iff (h : contribution storage e = .ok c) :
    (∃ x ∈ c.addTo (columnOf e.1) u, Assigns field x) ↔
      (∃ x ∈ u, Assigns field x) ∨ Assigns field (columnOf e.1, c.alone) := by
  cases c with
  | part change =>
    exact (joined_alterPatch _ _ u).exists_mem_iff fun p q => by simp [Assigns]
  | providers entries =>
    rw [(reaches_of_contribution h).providers rfl]
    exact (joined_addProviders entries u).exists_mem_iff fun p q => by simp [Assigns]
  | operator op => simp [Contribution.addTo, Contribution.alone, or_and_right, exists_or]

/-! ### Entries about relations -/

/-- An entry that assigns to a relation: `null`, or the key of a provider. -/
def Overwrites (e : String × Json) : Prop := e.2 = .null ∨ (Key.provider? e.1).isSome = true

instance (e : String × Json) : Decidable (Overwrites e) := inferInstanceAs (Decidable (_ ∨ _))

/-- **An entry about a relation is read as no change, if it is neither `null` nor that of a
provider.** -/
theorem assigns_alone_iff (htype : storage.fieldType? field = some type)
    (hrelation : type.isRelation = true) (h : contribution storage e = .ok c) :
    Assigns field (columnOf e.1, c.alone) ↔ columnOf e.1 = field ∧ Overwrites e := by
  refine and_congr_right fun hcolumn => ?_
  obtain ⟨key, operand⟩ := e
  dsimp only at hcolumn ⊢
  unfold contribution at h
  split at h
  · next provider hprovider =>
    cases h
    dsimp only at hprovider
    simp [Contribution.alone, Overwrites, hprovider]
  · next hprovider hundotted =>
    dsimp only at hprovider hundotted h
    obtain ⟨read, hread, rfl⟩ := Result.map_eq_ok.1 h
    have hkey : storage.fieldType? key = some type := by
      rw [← columnOf_of_undotted hprovider hundotted, hcolumn, htype]
    cases reads_of_readPlain hread with
    | null hnull => simp [plainContribution, Contribution.alone, Overwrites, hnull]
    | ofRelation hnull _ =>
      simp [plainContribution, Contribution.alone, Overwrites, hnull, hprovider]
    | operator hplain | relation hplain | providers hplain | set _ hplain =>
      simp [hkey, hrelation] at hplain
    | whole _ _ _ _ hobject =>
      rw [hkey, Option.some.injEq] at hobject
      rw [hobject] at hrelation
      cases hrelation
  · next hprovider hdotted =>
    have hother : storage.fieldType? (columnOf key) ≠ some .object := by
      rw [hcolumn, htype]
      rintro ⟨⟩
      cases hrelation
    rw [if_neg hother] at h
    cases h

/-- The operators of a relation that assign come from entries that overwrite it. -/
theorem exists_assigns_relation_iff (htype : schema.storage.fieldType? field = some type)
    (hrelation : type.isRelation = true) (h : ofObject schema o = .ok u) :
    (∃ x ∈ u, Assigns field x) ↔ ∃ e ∈ o, columnOf e.1 = field ∧ Overwrites e := by
  have hread : (∃ x ∈ u, Assigns field x) ↔
      ∃ e ∈ inOrder o, columnOf e.1 = field ∧ Overwrites e := by
    refine ofObject_keeps (P := fun before u => (∃ x ∈ u, Assigns field x) ↔
      ∃ e ∈ before, columnOf e.1 = field ∧ Overwrites e) (by simp) ?_ h
    intro before e c u _ hc hu
    rw [exists_assigns_addTo_iff hc, hu, assigns_alone_iff htype hrelation hc]
    simp only [List.mem_append, List.mem_singleton, or_and_right, exists_or, exists_eq_left]
  simpa only [mem_inOrder] using hread

/-- **A relation is assigned to by `null` and by the keys of providers, and by nothing else.**  It
has no column, unless it is called like the identifier. -/
theorem assigned_relation_iff (htype : schema.storage.fieldType? field = some type)
    (hrelation : type.isRelation = true) (hfront : front.length = start - 1)
    (h : compile schema o start = .ok s) :
    (∃ as, s.read? front = some as ∧
      ((∃ a ∈ as, a.column = field) ↔ ∃ e ∈ o, columnOf e.1 = field ∧ Overwrites e)) ∧
      (field ≠ "objectId" → field ∉ schema.columns.map Column.name) := by
  obtain ⟨u, made, hu, hmade, hread⟩ := exists_assignments hfront h
  refine ⟨⟨_, hread, ?_⟩, ClassSchema.not_mem_columns_of_relation htype hrelation⟩
  rw [exists_assignment_iff hu hmade, exists_assigns_relation_iff htype hrelation hu]

/-- Widgets with fans. -/
def fanSchema : ClassSchema :=
  ((ClassSchema.named "Widget").field "fans" (.relation "_User")).field "name" .string

/-- A new fan, and a name. -/
def fanChange : Object :=
  [("fans", .obj [("__op", .str "AddRelation"), ("objects", .arr [])]), ("name", .str "Ann")]

theorem assigned_relation_iff_fanChange :
    fanSchema.storage.fieldType? "fans" = some (.relation "_User") ∧
      ∃ s as, compile fanSchema fanChange 2 = .ok s ∧ s.read? [.ident "Widget"] = some as ∧
        as.map Assignment.column = ["name"] ∧ ¬ ∃ a ∈ as, a.column = "fans" := by
  have htype : fanSchema.storage.fieldType? "fans" = some (.relation "_User") := by decide +kernel
  obtain ⟨s, hs, hcolumns⟩ : ∃ s, compile fanSchema fanChange 2 = .ok s ∧
      (s.read? [.ident "Widget"]).map (List.map Assignment.column) = some ["name"] :=
    ⟨_, rfl, by decide +kernel⟩
  have hfront : [Param.ident "Widget"].length = 2 - 1 := rfl
  obtain ⟨⟨as, has, hassigned⟩, -⟩ := assigned_relation_iff htype rfl hfront hs
  have hnot : ¬ ∃ e ∈ fanChange, columnOf e.1 = "fans" ∧ Overwrites e := by decide +kernel
  rw [has] at hcolumns
  exact ⟨htype, s, as, hs, has, Option.some.inj hcolumns, fun hfans => hnot (hassigned.1 hfans)⟩

/-- Devices whose authentication data are declared as a relation. -/
def deviceSchema : ClassSchema := (ClassSchema.named "Device").field "authData" (.relation "_User")

/-- The columns that are assigned to, with the texts of the assignments. -/
def assigned? (schema : ClassSchema) (front : List Param) (o : Object) :
    Option (List (String × String)) :=
  (compile schema o (front.length + 1)).toOption.bind fun s =>
    (s.read? front).map fun as => as.map fun a => (a.column, a.text)

/-- The fans are set to `NULL`, and providers are set in authentication data that are a relation;
the tables do not have these columns. -/
theorem not_unassigned_relation :
    assigned? fanSchema [.ident "Widget"] [("fans", .null)] = some [("fans", "`fans` = NULL")] ∧
      "fans" ∉ fanSchema.columns.map Column.name ∧
      assigned? deviceSchema [.ident "Device"] [("_auth_data_phone", .null)] =
        some [("authData",
          "`authData` = JSON_SET(COALESCE(`authData`, JSON_OBJECT()), '$.\"phone\"', NULL)")] ∧
      "authData" ∉ deviceSchema.columns.map Column.name ∧
      ¬ ∀ (schema : ClassSchema) (field : String) (type : FieldType) (o : Object)
        (front : List Param) (assigned : List (String × String)),
        schema.storage.fieldType? field = some type → type.isRelation = true →
          assigned? schema front o = some assigned → field ∉ assigned.map Prod.fst := by
  have hfans : assigned? fanSchema [.ident "Widget"] [("fans", .null)] =
      some [("fans", "`fans` = NULL")] := by decide +kernel
  refine ⟨hfans, by decide +kernel, by decide +kernel, by decide +kernel, fun hall => ?_⟩
  have htype : fanSchema.storage.fieldType? "fans" = some (.relation "_User") := by decide +kernel
  exact hall _ _ _ _ _ _ htype rfl hfans List.mem_cons_self

end Update

end DocStore
