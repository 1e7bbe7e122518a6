import DocStore.Command.Basic
import DocStore.Proofs.Schema.Registry

/-!
# The views of a schema

A schema is taken in its storage view wherever queries, updates, rows and tables are concerned, and
given back in its host view.  What each view declares under a name is known
(`ClassSchema.fieldType?_storage`, `ClassSchema.fieldType?_host`).  Taken twice a view changes
nothing, and the host view of the storage view shows nothing but the fields of the schema, and for
`_User` the authentication data.

Everything that is made with a schema comes from the class, the fields of the storage view and the
relations (`ClassSchema.alike_of_storage`); the permissions do not matter.  So a schema, its views
and what the registry gives back of it serve alike (`ClassSchema.views_alike`).
-/

namespace DocStore

namespace ClassSchema

variable {s t : ClassSchema} {name : String}

/-! ### What the views declare -/

/-- The fields that the storage view puts in place of what is declared. -/
def permissionTypes : List (String × FieldType) :=
  permissionFields.map fun name => (name, .arrayOf .string)

/-- The fields that the storage view adds where nothing is declared. -/
def addedFields (className : String) : List (String × FieldType) :=
  if className = "_User" then userFields else []

/-- The names that the host view hides. -/
def hiddenNames (className : String) : List String :=
  "_hashed_password" :: permissionFields ++
    (if className = "_User" then userInternalFields.map (·.1) else [])

/-- The names that the host view of some class hides. -/
def internalNames : List String :=
  "_hashed_password" :: permissionFields ++ userInternalFields.map (·.1)

/-- A schema that calls no field like a field of the store, and no permission like an operation. -/
structure IsPlain (s : ClassSchema) : Prop where
  fields : ∀ name ∈ internalNames, s.fieldType? name = none
  permissions : ∀ p, s.permissions = some p → ∀ e ∈ p.extra, e.1 ∉ Permissions.operations

theorem fieldType?_storage (s : ClassSchema) (name : String) :
    s.storage.fieldType? name =
      (permissionTypes.lookup name).or
        ((s.fieldType? name).or ((addedFields s.className).lookup name)) := by
  have hpermissions : (permissionFields.foldl
      (fun d name => d.insert name (.arrayOf .string)) s.fields).get? name =
        (permissionTypes.lookup name).or (s.fieldType? name) := by
    rw [fieldType?, ← Dict.get?_foldl_insert (by decide), permissionTypes, List.foldl_map]
  unfold fieldType? storage addedFields
  dsimp only
  split
  · rw [Dict.get?_foldl_insertIfNew, hpermissions, Option.or_assoc, fieldType?]
  · rw [hpermissions, fieldType?, List.lookup_nil, Option.or_none]

theorem fieldType?_host (s : ClassSchema) (name : String) :
    s.host.fieldType? name = if name ∈ hiddenNames s.className then none else s.fieldType? name :=
  Dict.get?_foldl_erase _ _ _

/-- Schemas of one class with the same types and permissions are the same. -/
theorem ext_fieldType? (hclass : s.className = t.className)
    (hfields : ∀ name, s.fieldType? name = t.fieldType? name)
    (hpermissions : s.permissions = t.permissions) : s = t := by
  obtain ⟨className, fields, permissions⟩ := s
  obtain ⟨className', fields', permissions'⟩ := t
  obtain rfl : className = className' := hclass
  obtain rfl : fields = fields' := Dict.ext_get? hfields
  obtain rfl : permissions = permissions' := hpermissions
  rfl

/-! ### Views of views -/

theorem storage_storage (s : ClassSchema) : s.storage.storage = s.storage := by
  refine ext_fieldType? rfl (fun name => ?_) rfl
  have hclass : s.storage.className = s.className := rfl
  rw [fieldType?_storage s.storage, fieldType?_storage s, hclass]
  cases permissionTypes.lookup name with
  | some type => rfl
  | none =>
    cases s.fieldType? name with
    | some type => rfl
    | none => cases (addedFields s.className).lookup name <;> rfl

theorem host_host (s : ClassSchema) : s.host.host = s.host := by
  refine ext_fieldType? rfl (fun name => ?_) rfl
  have hclass : s.host.className = s.className := rfl
  rw [fieldType?_host s.host, fieldType?_host s, hclass]
  split <;> rfl

theorem lookup_permissionTypes (h : name ∉ permissionFields) :
    permissionTypes.lookup name = none :=
  Dict.lookup_eq_none h

/-- What the storage view adds is hidden by the host view, except for the authentication data. -/
theorem lookup_addedFields {className : String} (h : name ∉ hiddenNames className) :
    (addedFields className).lookup name =
      if className = "_User" ∧ name = "authData" then some .object else none := by
  unfold addedFields
  split
  · next hclass =>
    rw [hiddenNames, if_pos hclass] at h
    have hinternal : userInternalFields.lookup name = none :=
      Dict.lookup_eq_none fun hmem => h (List.mem_append_right _ hmem)
    have hpassword : name ≠ "_hashed_password" := fun heq => h (heq ▸ List.mem_cons_self)
    simp [userFields, Dict.lookup_cons_eq_or, hclass, hpassword, hinternal]
  · next hclass => simp [hclass]

theorem fieldType?_host_storage (s : ClassSchema) (name : String) :
    s.storage.host.fieldType? name =
      if name ∈ hiddenNames s.className then none
      else (s.fieldType? name).or
        (if s.className = "_User" ∧ name = "authData" then some .object else none) := by
  have hclass : s.storage.className = s.className := rfl
  rw [fieldType?_host, fieldType?_storage, hclass]
  split
  · rfl
  · next hshown =>
    have hother : name ∉ permissionFields := fun hmem =>
      hshown (List.mem_append_left _ (List.mem_cons_of_mem _ hmem))
    rw [lookup_permissionTypes hother, Option.none_or, lookup_addedFields hshown]

/-- **The host view of the storage view is the host view, and for `_User` the authentication data
where the schema does not declare them.** -/
theorem host_storage (s : ClassSchema) :
    s.storage.host =
      if s.className = "_User" ∧ s.fieldType? "authData" = none then
        s.host.field "authData" .object
      else s.host := by
  have hauth : "authData" ∉ hiddenNames s.className := by
    unfold hiddenNames
    split <;> decide
  split
  · next hnew =>
    refine ext_fieldType? rfl (fun name => ?_) rfl
    have hinsert : (s.host.field "authData" .object).fieldType? name =
        if name = "authData" then some .object else s.host.fieldType? name :=
      Dict.get?_insert _ _ _ _
    rw [fieldType?_host_storage, hinsert, fieldType?_host]
    by_cases hname : name = "authData"
    · rw [if_pos hname, hname, if_neg hauth, if_pos ⟨hnew.1, rfl⟩, hnew.2, Option.none_or]
    · rw [if_neg hname, if_neg (hname ∘ And.right), Option.or_none]
  · next hold =>
    refine ext_fieldType? rfl (fun name => ?_) rfl
    rw [fieldType?_host_storage, fieldType?_host]
    by_cases hname : s.className = "_User" ∧ name = "authData"
    · obtain ⟨hclass, rfl⟩ := hname
      obtain ⟨type, htype⟩ := Option.ne_none_iff_exists'.1 fun h => hold ⟨hclass, h⟩
      rw [htype, Option.some_or]
    · rw [if_neg hname, Option.or_none]

/-! ### Plain schemas -/

theorem mem_internalNames {className : String} (h : name ∈ hiddenNames className) :
    name ∈ internalNames := by
  unfold hiddenNames at h
  split at h
  · exact h
  · exact List.mem_append_left _ (by simpa using h)

/-- The host view of a plain schema hides nothing. -/
theorem IsPlain.fields_host (h : s.IsPlain) : s.host.fields = s.fields :=
  Dict.ext_get? fun name => by
    have hhost := fieldType?_host s name
    unfold fieldType? at hhost
    rw [hhost]
    split
    · next hhidden => exact (h.fields name (mem_internalNames hhidden)).symm
    · rfl

theorem isRelation_permissionTypes {type : FieldType}
    (h : permissionTypes.lookup name = some type) : type.isRelation = false := by
  have hall : ∀ e ∈ permissionTypes, e.2.isRelation = false := by decide
  exact hall _ ((lookup_eq_some_iff (by decide)).1 h)

theorem isRelation_addedFields {className : String} {type : FieldType}
    (h : (addedFields className).lookup name = some type) : type.isRelation = false := by
  unfold addedFields at h
  split at h
  · have hall : ∀ e ∈ userFields, e.2.isRelation = false := by decide
    exact hall _ ((lookup_eq_some_iff (by decide)).1 h)
  · cases h

/-- The relations of the storage view of a plain schema are those of the schema. -/
theorem IsPlain.fieldType?_storage_eq_some_iff (h : s.IsPlain) {type : FieldType}
    (hrelation : type.isRelation = true) :
    s.storage.fieldType? name = some type ↔ s.fieldType? name = some type := by
  rw [fieldType?_storage, Option.or_eq_some_iff, Option.or_eq_some_iff]
  -- no field of the store is a relation
  have hpermission : permissionTypes.lookup name ≠ some type := fun hlookup => by
    simp [isRelation_permissionTypes hlookup] at hrelation
  have hadded : (addedFields s.className).lookup name ≠ some type := fun hlookup => by
    simp [isRelation_addedFields hlookup] at hrelation
  constructor
  · rintro (hlookup | ⟨-, hfield | ⟨-, hlookup⟩⟩)
    · exact absurd hlookup hpermission
    · exact hfield
    · exact absurd hlookup hadded
  · intro hfield
    have hother : name ∉ permissionFields := fun hmem => by
      have hinternal : name ∈ internalNames :=
        List.mem_append_left _ (List.mem_cons_of_mem _ hmem)
      simp [h.fields name hinternal] at hfield
    exact .inr ⟨lookup_permissionTypes hother, .inl hfield⟩

theorem IsPlain.relationFields_storage (h : s.IsPlain) :
    s.storage.relationFields = s.relationFields := by
  have hentries : (s.storage.fields.entries.filter fun e => e.2.isRelation) =
      s.fields.entries.filter fun e => e.2.isRelation := by
    refine Dict.eq_of_mem_iff (s.storage.fields.sorted.filter _) (s.fields.sorted.filter _) ?_
    rintro ⟨name, type⟩
    rw [List.mem_filter, List.mem_filter, ← Dict.get?_eq_some_iff, ← Dict.get?_eq_some_iff]
    exact and_congr_left h.fieldType?_storage_eq_some_iff
  rw [relationFields, relationFields, hentries]

end ClassSchema

/-! ### What does not depend on permissions -/

section Permissions

variable (s : ClassSchema) (p : Option Permissions)

mutual

theorem Clause.lower_permissions :
    (c : Clause) → Clause.lower { s with permissions := p } c = Clause.lower s c
  | .field name constraints => by
    rw [Clause.lower, Clause.lower]
    rfl
  | .connect connective queries => by
    rw [Clause.lower, Clause.lower, Clause.lowerGroup_permissions queries]

theorem Clause.lowerAll_permissions :
    (cs : List Clause) → Clause.lowerAll { s with permissions := p } cs = Clause.lowerAll s cs
  | [] => rfl
  | c :: cs => by
    rw [Clause.lowerAll, Clause.lowerAll, Clause.lower_permissions c,
      Clause.lowerAll_permissions cs]

theorem Clause.lowerGroup_permissions : (qs : List (List Clause)) →
    Clause.lowerGroup { s with permissions := p } qs = Clause.lowerGroup s qs
  | [] => rfl
  | q :: qs => by
    rw [Clause.lowerGroup, Clause.lowerGroup, Clause.lowerAll_permissions q,
      Clause.lowerGroup_permissions qs]

end

theorem EncodedRow.encodeFields_permissions (now : String) (o : Object) :
    encodeFields now { s with permissions := p } o = encodeFields now s o := by
  induction o with
  | nil => rfl
  | cons e rest ih =>
    obtain ⟨field, data⟩ := e
    rw [encodeFields, encodeFields, ih]
    rfl

theorem Update.changesIn_permissions (u : Update) :
    changesIn { s with permissions := p } u = changesIn s u := by
  induction u with
  | nil => rfl
  | cons e rest ih =>
    obtain ⟨column, operator⟩ := e
    cases operator <;> simp only [changesIn, ih] <;> rfl

end Permissions

namespace ClassSchema

variable {s t : ClassSchema}

/-- The schemas `s` and `t` give the same conditions, assignments, rows, documents, selections and
tables. -/
structure Alike (s t : ClassSchema) : Prop where
  compileQuery : ∀ q start, Query.compile s q start = Query.compile t q start
  compileUpdate : ∀ o start, Update.compile s o start = Update.compile t o start
  encode : ∀ now o, EncodedRow.ofObject now s o = EncodedRow.ofObject now t o
  decode : ∀ row, Row.decode s row = Row.decode t row
  select : ∀ q options, Query.select s q options = Query.select t q options
  createTables : ∀ className, Command.createTables className s = Command.createTables className t
  columns : s.columns = t.columns

/-- **Schemas of one class with the same relations and the same fields in the storage view serve
alike.** -/
theorem alike_of_storage (hclass : s.className = t.className)
    (hfields : s.storage.fields = t.storage.fields)
    (hrelations : s.relationFields = t.relationFields) : Alike s t := by
  -- the storage views differ at most in their permissions
  have hstorage : t.storage = ⟨s.storage.className, s.storage.fields, t.permissions⟩ := by
    rw [hfields]
    exact congrArg (ClassSchema.mk · _ _) hclass.symm
  have hfilter : ∀ q, Query.filter s q = Query.filter t q := fun q => by
    rw [Query.filter, Query.filter, hstorage]
    exact (Clause.lowerAll_permissions s.storage t.permissions q).symm
  have hread : ∀ o, Update.ofObject s o = Update.ofObject t o := fun o => by
    rw [Update.ofObject, Update.ofObject, hstorage]
    rfl
  have hchanges : ∀ u, Update.changes s u = Update.changes t u := fun u => by
    rw [Update.changes, Update.changes, hstorage]
    exact (Update.changesIn_permissions s.storage t.permissions u).symm
  have hcolumns : s.columns = t.columns := by
    rw [columns, columns, hfields]
  exact {
    compileQuery := fun q start => by rw [Query.compile, Query.compile, hfilter]
    compileUpdate := fun o start => by
      simp only [Update.compile, hread, hchanges]
    encode := fun now o => by
      rw [EncodedRow.ofObject, EncodedRow.ofObject, hstorage]
      simp only [EncodedRow.encodeFields_permissions]
    decode := fun row => by
      rw [Row.decode, Row.decode, hstorage]
      rfl
    select := fun q options => by
      rw [Query.select, Query.select, hfilter, hstorage]
      rfl
    createTables := fun className => by
      rw [Command.createTables, Command.createTables, hcolumns, hrelations]
    columns := hcolumns }

/-- **The views of a schema, and what the registry gives back of it, serve like the schema.**  Each
view is taken once for all; the host view of the storage view is the host view, apart from the
authentication data of `_User`. -/
theorem views_alike (s : ClassSchema) :
    s.storage.storage = s.storage ∧ s.host.host = s.host ∧
      s.storage.host =
        (if s.className = "_User" ∧ s.fieldType? "authData" = none then
          s.host.field "authData" .object
        else s.host) ∧
      (s.IsPlain → Alike s s.storage ∧ Alike s s.host ∧
        ∃ t, ofRegistry s.className s.toJson = .ok t ∧ Alike s t.host ∧
          ∀ row : Row, row.string? "className" = some s.className →
            row.lookup "schema" = some s.toJson → Store.classOfRow row = .ok t.host) := by
  refine ⟨s.storage_storage, s.host_host, s.host_storage, fun h => ?_⟩
  have hstorage : Alike s s.storage :=
    alike_of_storage rfl (by rw [storage_storage]) h.relationFields_storage.symm
  have hhost : Alike s s.host := by
    refine alike_of_storage rfl ?_ ?_
    · simp only [storage, h.fields_host]
      rfl
    · rw [relationFields, relationFields, h.fields_host]
  have hread : ofRegistry s.className s.toJson = .ok s :=
    ofRegistry_toJson s.className h.permissions
  refine ⟨hstorage, hhost, s, hread, hhost, fun row hclass hschema => ?_⟩
  rw [Store.classOfRow, hclass, hschema]
  dsimp only [Option.getD_some]
  rw [hread]
  rfl

/-- Accounts with a relation and with permissions of a further name. -/
def accountSchema : ClassSchema :=
  { ((withDefaultFields "_User").field "username" .string).field "roles" (.relation "_Role") with
    permissions :=
      some { Permissions.allOpen with extra := [("readUserFields", .arr [.str "owner"])] } }

theorem views_alike_account :
    accountSchema.IsPlain ∧
      accountSchema.storage.host = accountSchema.host.field "authData" .object ∧
      Alike accountSchema accountSchema.storage ∧ Alike accountSchema accountSchema.host ∧
      ∃ t, ofRegistry "_User" accountSchema.toJson = .ok t ∧ Alike accountSchema t.host := by
  have hplain : accountSchema.IsPlain := {
    fields := by decide +kernel
    permissions := by
      intro p hp
      cases hp
      decide }
  have hnew : accountSchema.className = "_User" ∧ accountSchema.fieldType? "authData" = none :=
    ⟨rfl, by decide +kernel⟩
  obtain ⟨-, -, hhost, halike⟩ := views_alike accountSchema
  obtain ⟨hstorage, hhostAlike, t, hread, ht, -⟩ := halike hplain
  rw [if_pos hnew] at hhost
  exact ⟨hplain, hhost, hstorage, hhostAlike, t, hread, ht⟩

end ClassSchema

end DocStore
