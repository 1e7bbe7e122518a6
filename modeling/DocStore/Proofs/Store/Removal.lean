import DocStore.Proofs.Command.Scope
import DocStore.Proofs.Result
import DocStore.Proofs.Schema.Views
import DocStore.Proofs.Store.Creation

/-!
# Removing everything

All classes are removed by one batch, which names the tables that the registry knows of.  The batch
is sent only if every row of the registry can be read (`Store.leads_deleteAllClasses`).  A row that
was put into the registry with its class gives back the names of all tables that were created for
the class (`Store.tablesOf_eq_createdTables`), although these come from the schema as it was given
and the names in the batch from the host view of what was read
(`Store.deleteAllClasses_drops_created`).
-/

namespace DocStore

open Sql

/-! ### Relations of the host view -/

namespace Dict

variable {α : Type}

theorem entries_foldl_erase (names : List String) (d : Dict α) :
    (names.foldl (fun d name => d.erase name) d).entries =
      d.entries.filter fun e => e.1 ∉ names := by
  induction names generalizing d with
  | nil => simp
  | cons name rest ih =>
    rw [List.foldl_cons, ih, erase, List.filter_filter]
    refine List.filter_congr fun e _ => ?_
    simp [bne, beq_eq_decide, Bool.and_comm]

end Dict

namespace ClassSchema

/-- The host view shows the relations that are not called like a hidden field. -/
theorem relationFields_host (s : ClassSchema) :
    s.host.relationFields =
      s.relationFields.filter fun field => field ∉ hiddenNames s.className := by
  have hentries : s.host.fields.entries =
      s.fields.entries.filter fun e => e.1 ∉ hiddenNames s.className :=
    Dict.entries_foldl_erase _ _
  rw [relationFields, relationFields, hentries, List.filter_map, List.filter_filter,
    List.filter_filter]
  refine congrArg _ (List.filter_congr fun e _ => ?_)
  simp [Bool.and_comm]

theorem relationFields_host_of_shown {s : ClassSchema}
    (h : ∀ field ∈ s.relationFields, field ∉ hiddenNames s.className) :
    s.host.relationFields = s.relationFields := by
  rw [relationFields_host]
  exact List.filter_eq_self.2 fun field hfield => by simpa using h field hfield

end ClassSchema

/-! ### Rows of the registry -/

namespace Row

/-- A row of the registry from which no class can be read: it has no class name, or its document is
no schema. -/
def IsUnreadable (row : Row) : Prop :=
  row.string? "className" = none ∨
    ∃ className fault, row.string? "className" = some className ∧
      ClassSchema.ofRegistry className ((row.lookup "schema").getD .null) = .error fault

/-- A row of the registry for a class: its name, and a document with the members of its schema. -/
def Registers (row : Row) (className : String) (schema : ClassSchema) : Prop :=
  row.string? "className" = some className ∧ ∃ stored o,
    row.lookup "schema" = some stored ∧ (Json.obj o).StoredAs stored ∧ schema.HeldBy o

end Row

/-- A failure gives no value. -/
theorem Attempt.eq_none_of_resolve_error {α : Type} {a : Attempt} {className : String}
    {fault : Fault} {found : Option α}
    (h : a.resolve className (.error fault) = .ok found) : found = none := by
  unfold resolve at h
  dsimp only at h
  split at h
  · exact (Except.ok.inj h).symm
  · cases h

/-- The table that a command creates. -/
def Command.createdTable? : Command → Option String
  | .createTable table _ | .createJoinTable table => some table
  | _ => none

namespace Store

/-- The tables that are created for a class of a given name. -/
def createdTables (className : String) (schema : ClassSchema) : List String :=
  (Command.createTables className { schema with className }).filterMap Command.createdTable?

theorem createdTables_eq (className : String) (schema : ClassSchema) :
    createdTables className schema =
      className :: schema.relationFields.map (Names.joinTable className) := by
  have hjoins : ∀ fields : List String,
      (fields.map fun field => Command.createJoinTable (Names.joinTable className field)).filterMap
        Command.createdTable? = fields.map (Names.joinTable className) := by
    intro fields
    rw [List.filterMap_map]
    exact congrFun (List.filterMap_eq_map (f := Names.joinTable className)) fields
  exact congrArg (className :: ·) (hjoins _)

theorem classOfRow_eq_error {row : Row} :
    (∃ fault, classOfRow row = .error fault) ↔ row.IsUnreadable := by
  unfold classOfRow Row.IsUnreadable
  cases hname : row.string? "className" with
  | none => simp
  | some className =>
    simp only [Result.map_eq_error, reduceCtorEq, false_or, Option.some.injEq]
    exact ⟨fun ⟨fault, h⟩ => ⟨className, fault, rfl, h⟩, fun ⟨_, fault, rfl, h⟩ => ⟨fault, h⟩⟩

/-- The class of a row that registers it. -/
theorem classOfRow_of_registers {row : Row} {className : String} {schema : ClassSchema}
    (hrow : row.Registers className schema)
    (h : ∀ p, schema.permissions = some p → ∀ e ∈ p.extra, e.1 ∉ Permissions.operations) :
    classOfRow row = .ok (ClassSchema.host { schema with className }) := by
  obtain ⟨hname, stored, o, hlookup, hstored, hheld⟩ := hrow
  simp only [classOfRow, hname, hlookup, Option.getD_some,
    ClassSchema.ofRegistry_of_heldBy className h hheld hstored, Except.map]

/-- **What is removed of a class is what was created for it.** -/
theorem tablesOf_eq_createdTables {className : String} {schema : ClassSchema}
    (h : ∀ field ∈ schema.relationFields, field ∉ ClassSchema.hiddenNames className) :
    tablesOf (ClassSchema.host { schema with className }) = createdTables className schema := by
  rw [createdTables_eq]
  exact congrArg (fun fields => className :: fields.map (Names.joinTable className))
    (ClassSchema.relationFields_host_of_shown (s := { schema with className }) h)

/-- The tables that are dropped with the given classes: theirs, those of the system, and the
registry last. -/
def droppedTables (config : Config) (classes : List ClassSchema) : List String :=
  classes.flatMap tablesOf ++ config.systemTables ++ [config.registry]

/-- An attempt that ends a program is one exchange. -/
theorem leads_executeAs_done {a : Attempt} {className : String} {c : Command}
    {xs : List Exchange} {result : Except Fault Unit}
    (h : (Program.executeAs a className c >>= fun _ => (pure () : Program Unit)).Leads xs result) :
    ∃ answer, xs = [.execute c answer] ∧
      result = (a.resolve className answer).map fun _ => () := by
  rcases h.bind with ⟨n, ys, zs, rfl, hexecute, hdone⟩ | ⟨fault, hexecute, rfl⟩
  · obtain ⟨rfl, rfl⟩ := hdone.of_done
    obtain ⟨answer, rfl, hresolve⟩ := hexecute.executeAs
    exact ⟨answer, rfl, congrArg (Except.map fun _ => ()) hresolve⟩
  · obtain ⟨answer, rfl, hresolve⟩ := hexecute.executeAs
    exact ⟨answer, rfl, congrArg (Except.map fun _ => ()) hresolve⟩

/-- What follows when the registry has been read, and how the removal ends. -/
inductive Removes (config : Config) :
    Except Fault (List Row) → List Exchange → Except Fault Unit → Prop where
  | unread (fault : Fault) :
    Removes config (.error fault) []
      ((Attempt.read.resolve config.registry (.error fault : Except Fault (List Row))).map
        fun _ => ())
  | unreadable {rows : List Row} {fault : Fault} (h : rows.mapM classOfRow = .error fault) :
    Removes config (.ok rows) [] (.error fault)
  | dropped {rows : List Row} {classes : List ClassSchema}
    (h : rows.mapM classOfRow = .ok classes) (answer : Except Fault Nat) :
    Removes config (.ok rows) [.execute (.dropTables (droppedTables config classes)) answer]
      ((Attempt.read.resolve config.registry answer).map fun _ => ())

/-- **The course of a removal**: the registry is read, and if every row of it can be read, one batch
follows. -/
theorem leads_deleteAllClasses {config : Config} {xs : List Exchange} {result : Except Fault Unit}
    (h : (deleteAllClasses config).Leads xs result) :
    ∃ answer rest, xs = .query (.selectClasses config.registry none) answer :: rest ∧
      Removes config answer rest result := by
  rcases h.report.bind with ⟨found, ys, rest, rfl, hquery, hrest⟩ | ⟨fault, hquery, rfl⟩
  · obtain ⟨answer, rfl, hfound⟩ := hquery.queryAs
    refine ⟨answer, rest, rfl, ?_⟩
    cases answer with
    | error fault =>
      -- the failure does no harm, so nothing was found
      obtain rfl := Attempt.eq_none_of_resolve_error hfound.symm
      obtain ⟨rfl, rfl⟩ := hrest.of_done
      have hunread : Removes config _ [] _ := .unread fault
      rwa [← hfound] at hunread
    | ok rows =>
      cases hfound
      change (Program.done (rows.mapM classOfRow) >>= fun classes =>
        Program.executeAs .read config.registry (.dropTables (droppedTables config classes)) >>=
          fun _ => (pure () : Program Unit)).Leads rest result at hrest
      cases hclasses : rows.mapM classOfRow with
      | error fault =>
        rw [hclasses] at hrest
        obtain ⟨rfl, rfl⟩ := hrest.of_done
        exact .unreadable hclasses
      | ok classes =>
        rw [hclasses] at hrest
        obtain ⟨dropped, rfl, rfl⟩ := leads_executeAs_done hrest
        exact .dropped hclasses dropped
  · obtain ⟨answer, rfl, hfault⟩ := hquery.queryAs
    refine ⟨answer, [], rfl, ?_⟩
    cases answer with
    | error e =>
      have hunread : Removes config _ [] _ := .unread e
      rwa [← hfault] at hunread
    | ok rows => cases hfault

/-- A row as it is inserted for a class, with its document or the text of it. -/
theorem registers_inserted {className : String} {schema : ClassSchema} {stored : Json}
    (h : (ClassSchema.toJson { schema with className }).StoredAs stored) :
    Row.Registers [("className", .str className), ("schema", stored)] className schema := by
  obtain ⟨o, ho, hheld⟩ := schema.heldBy_toJson className
  exact ⟨rfl, stored, o, rfl, ho ▸ h, hheld⟩

/-- The classes of rows that register them, by the tables that were created for them. -/
theorem tables_of_registers {rows : List Row} {created : List (String × ClassSchema)}
    (hrows : List.Forall₂ (fun row c => Row.Registers row c.1 c.2) rows created)
    (h : ∀ c ∈ created,
      (∀ field ∈ c.2.relationFields, field ∉ ClassSchema.hiddenNames c.1) ∧
        ∀ p, c.2.permissions = some p → ∀ e ∈ p.extra, e.1 ∉ Permissions.operations) :
    ∃ classes, rows.mapM classOfRow = .ok classes ∧
      classes.flatMap tablesOf = created.flatMap fun c => createdTables c.1 c.2 := by
  induction hrows with
  | nil => exact ⟨[], rfl, rfl⟩
  | @cons row c rows created hrow _ ih =>
    obtain ⟨hfields, hextra⟩ := h c List.mem_cons_self
    obtain ⟨classes, hclasses, htables⟩ := ih fun d hd => h d (List.mem_cons_of_mem _ hd)
    refine ⟨_ :: classes, Result.mapM_cons_eq_ok.2
      ⟨_, classes, classOfRow_of_registers hrow hextra, hclasses, rfl⟩, ?_⟩
    rw [List.flatMap_cons, List.flatMap_cons, htables, tablesOf_eq_createdTables hfields]

/-- **All that was created is dropped, or nothing is.**  The registry is read once.  If this fails
or one of its rows cannot be read, nothing else is sent; otherwise one batch is sent.  If the rows
are those of classes as they were registered, whose relations are not called like hidden fields and
whose further permissions are not called like operations, the batch drops for each row the tables
that were created for its class, then the tables of the system, and then the registry. -/
theorem deleteAllClasses_drops_created {ω β : Type} (engine : Engine ω β) (s : Session ω β)
    (config : Config) :
    ∃ answer rest, (deleteAllClasses config).exchanges engine s =
        .query (.selectClasses config.registry none) answer :: rest ∧
      ((rest = [] ∧ ((∃ fault, answer = .error fault) ∨
          ∃ rows, answer = .ok rows ∧ ∃ row ∈ rows, Row.IsUnreadable row)) ∨
        ∃ rows tables dropped, answer = .ok rows ∧ (∀ row ∈ rows, ¬ Row.IsUnreadable row) ∧
          rest = [.execute (.dropTables tables) dropped]) ∧
      ∀ rows created, answer = .ok rows →
        List.Forall₂ (fun row (c : String × ClassSchema) => Row.Registers row c.1 c.2)
          rows created →
        (∀ c ∈ created,
          (∀ field ∈ c.2.relationFields, field ∉ ClassSchema.hiddenNames c.1) ∧
            ∀ p, c.2.permissions = some p → ∀ e ∈ p.extra, e.1 ∉ Permissions.operations) →
        let tables := (created.flatMap fun c => createdTables c.1 c.2) ++ config.systemTables ++
          [config.registry]
        (∃ dropped, rest = [.execute (.dropTables tables) dropped]) ∧
          (Command.dropTables tables).render = .ok (String.join (tables.map fun table =>
            "DROP TABLE IF EXISTS " ++ quoteName table ++ ";")) := by
  obtain ⟨answer, rest, hexchanges, hremoves⟩ :=
    leads_deleteAllClasses ((deleteAllClasses config).leads_run engine s)
  generalize ((deleteAllClasses config).run engine s).2 = result at hremoves
  refine ⟨answer, rest, hexchanges, ?_, ?_⟩
  · cases hremoves with
    | unread fault => exact .inl ⟨rfl, .inl ⟨fault, rfl⟩⟩
    | @unreadable rows fault h =>
      obtain ⟨row, hrow, hfault⟩ := Result.exists_mapM_eq_error.1 ⟨fault, h⟩
      exact .inl ⟨rfl, .inr ⟨rows, rfl, row, hrow, classOfRow_eq_error.1 hfault⟩⟩
    | @dropped rows classes h dropped =>
      refine .inr ⟨rows, _, dropped, rfl, fun row hrow hunreadable => ?_, rfl⟩
      obtain ⟨fault, hfault⟩ :=
        Result.exists_mapM_eq_error.2 ⟨row, hrow, classOfRow_eq_error.2 hunreadable⟩
      rw [hfault] at h
      cases h
  · rintro rows created rfl hrows hcreated tables
    refine ⟨?_, Statement.render_dropTables tables⟩
    obtain ⟨classes, hclasses, htables⟩ := tables_of_registers hrows hcreated
    cases hremoves with
    | unreadable h =>
      rw [hclasses] at h
      cases h
    | dropped h dropped =>
      obtain rfl := Except.ok.inj (hclasses.symm.trans h)
      exact ⟨dropped, by rw [droppedTables, htables]⟩

/-- The rows of clubs and of users in the registry. -/
def twoRows : List Row :=
  [[("className", .str "Club"), ("schema", club.toJson)],
    [("className", .str "_User"), ("schema", ClassSchema.toJson (.named "_User"))]]

/-- An open connection that finds these rows. -/
def twoRegistered : Session Script Line :=
  .opened "" .sound ⟨[⟨none, 0, twoRows, false⟩], [], none⟩

theorem deleteAllClasses_drops_created_club :
    ∃ dropped, (deleteAllClasses (.ofUri "")).exchanges Script.engine twoRegistered =
      [.query (.selectClasses "_SCHEMA" none) (.ok twoRows),
        .execute (.dropTables (["Club", "_Join:members:Club", "_User"] ++
          Config.usualSystemTables ++ ["_SCHEMA"])) dropped] := by
  obtain ⟨answer, rest, hexchanges, -, hcreated⟩ :=
    deleteAllClasses_drops_created Script.engine twoRegistered (.ofUri "")
  have hfound : ((deleteAllClasses (.ofUri "")).exchanges Script.engine twoRegistered).head? =
      some (.query (.selectClasses "_SCHEMA" none) (.ok twoRows)) := rfl
  obtain rfl : answer = .ok twoRows := by
    rw [hexchanges] at hfound
    cases hfound
    rfl
  obtain ⟨⟨dropped, rfl⟩, -⟩ := hcreated _ [("Club", club), ("_User", .named "_User")] rfl
    (.cons (registers_inserted .value) (.cons (registers_inserted .value) .nil)) (by decide)
  exact ⟨dropped, hexchanges⟩

end Store

end DocStore
