import DocStore.Proofs.Catalog.Deeds
import DocStore.Proofs.Command.Drops
import DocStore.Proofs.Command.Names
import DocStore.Proofs.Schema.Registry
import DocStore.Proofs.Schema.Views
import DocStore.Proofs.Store.Creation

/-!
# Removing fields

Fields are removed from the registry first, and their columns from the class table behind it.  The
registry loses the fields that are named and keeps the others.  The columns that are dropped are
those of the named fields that are no relations, in the order in which they are named and as often
(`ClassSchema.loses`).  So a field that is named twice makes the engine refuse the second command
when the registry has lost the field already (`Store.not_dropped_once`), and without that table and
registry lose the same fields (`Store.deleteFields_drops`).
-/

namespace DocStore

open Sql

namespace ClassSchema

variable {schema : ClassSchema} {names : List String} {name : String}

/-- A field that is no relation. -/
def HasColumn (schema : ClassSchema) (name : String) : Prop :=
  (schema.fieldType? name).any (fun type => !type.isRelation) = true

instance (schema : ClassSchema) (name : String) : Decidable (schema.HasColumn name) :=
  inferInstanceAs (Decidable (_ = true))

theorem hasColumn_iff : schema.HasColumn name ↔
    ∃ type, schema.fields.get? name = some type ∧ type.isRelation = false := by
  simp [HasColumn, fieldType?, Option.any_eq_true]

/-- A created table has the columns. -/
theorem HasColumn.mem_columns (h : schema.HasColumn name) :
    name ∈ schema.columns.map Column.name := by
  obtain ⟨type, htype, hrelation⟩ := hasColumn_iff.1 h
  refine mem_columns_iff.2 (.inr ?_)
  rw [fieldType?_storage, fieldType?, htype]
  cases hpermission : permissionTypes.lookup name with
  | none => exact ⟨type, rfl, hrelation⟩
  | some stored => exact ⟨stored, rfl, isRelation_permissionTypes hpermission⟩

/-- What is left of the fields of a schema when fields are named, and which columns are dropped. -/
structure Loses (schema : ClassSchema) (names : List String) (remaining : Dict FieldType)
    (dropped : List String) : Prop where
  get?_remaining : ∀ name,
    remaining.get? name = if name ∈ names then none else schema.fields.get? name
  dropped_eq : dropped = names.filter fun name => schema.HasColumn name

theorem loses (schema : ClassSchema) (names : List String) :
    schema.Loses names (names.foldl (fun d name => d.erase name) schema.fields)
      (names.filter fun name => schema.HasColumn name) :=
  ⟨Dict.get?_foldl_erase names schema.fields, rfl⟩

namespace Loses

variable {remaining : Dict FieldType} {dropped : List String}

theorem mem_dropped (h : schema.Loses names remaining dropped) :
    name ∈ dropped ↔ name ∈ names ∧ schema.HasColumn name := by
  rw [h.dropped_eq, List.mem_filter, decide_eq_true_eq]

/-- **What is dropped is not registered any more, and of what is not registered any more no column
is left.** -/
theorem mem_dropped_iff (h : schema.Loses names remaining dropped) :
    name ∈ dropped ↔ schema.HasColumn name ∧ remaining.get? name = none := by
  rw [h.mem_dropped, and_comm]
  refine and_congr_right fun hcolumn => ?_
  obtain ⟨type, htype, -⟩ := hasColumn_iff.1 hcolumn
  rw [h.get?_remaining, htype]
  simp

/-- A column is dropped as often as its field is named. -/
theorem count_dropped (h : schema.Loses names remaining dropped) (name : String) :
    dropped.count name = if schema.HasColumn name then names.count name else 0 := by
  split
  · next hcolumn =>
    rw [h.dropped_eq]
    exact List.count_filter (by simpa using hcolumn)
  · next hcolumn => exact List.count_eq_zero.2 fun hmem => hcolumn (h.mem_dropped.1 hmem).2

/-- **No column is dropped twice** if and only if no field that has one is named twice. -/
theorem nodup_dropped (h : schema.Loses names remaining dropped) :
    dropped.Nodup ↔ ∀ name, schema.HasColumn name → names.count name ≤ 1 := by
  rw [List.nodup_iff_count_le_one]
  refine forall_congr' fun name => ?_
  rw [h.count_dropped]
  split
  · next hcolumn => simp [hcolumn]
  · next hcolumn => simp [hcolumn]

/-- **What is left of a table** that has the columns. -/
theorem left?_eq_some_iff (h : schema.Loses names remaining dropped) {table left : List String}
    (htable : ∀ name, schema.HasColumn name → name ∈ table) :
    ColumnRemoval.left? table dropped = some left ↔ dropped.Nodup ∧
      left = table.filter fun name => ¬ (name ∈ names ∧ schema.HasColumn name) := by
  have hsubset : dropped ⊆ table := fun name hname => htable name (h.mem_dropped.1 hname).2
  have hleft : (table.filter fun name => name ∉ dropped) =
      table.filter fun name => ¬ (name ∈ names ∧ schema.HasColumn name) :=
    List.filter_congr fun name _ => decide_eq_decide.2 (not_congr h.mem_dropped)
  rw [ColumnRemoval.left?_eq_some_iff, hleft]
  tauto

end Loses

end ClassSchema

namespace Command

/-- The text of a command replaces the registered fields of a class.  `cast` reads texts as JSON. -/
def ReplacesFields (c : Command) (registry className : String) (fields : Json) : Prop :=
  ∃ deed, c.Does deed ∧
    ∀ (cast : String → Option Json) (w : Catalog) (t : Table) (document : Option Json) (o : Object),
      cast fields.compact = some fields → w.get? registry = some t →
      t.schemas.get? className = some document → document.getD (.obj []) = .obj o →
      deed.act cast w = (.ok (1, []), w.insert registry
        { t with schemas := t.schemas.insert className (some (.obj (o.insert "fields" fields))) })

theorem replacesFields_setFields (registry className : String) (fields : Dict FieldType) :
    (setFields registry className (ClassSchema.fieldsToJson fields)).ReplacesFields registry
      className (ClassSchema.fieldsToJson fields) := by
  refine ⟨_, does_setMember registry className "fields" _,
    fun cast w t document o hcast ht hd ho => ?_⟩
  have hvalue : Deed.value? cast document
      (setMemberTokens "fields" (ClassSchema.fieldsToJson fields)) =
        some (.json (.obj (o.insert "fields" (ClassSchema.fieldsToJson fields)))) := by
    rw [← Json.setAt_member, ← ho]
    exact (Deed.gives_setMember "fields" hcast).value?
  simp only [Deed.act, ht, hd, hvalue]

/-- The text of a command drops columns from a table. -/
def DropsColumns (c : Command) (table : String) (columns : List String) : Prop :=
  ∃ text, c.render = .ok text ∧ ColumnRemoval.ofText? text = some ⟨table, columns⟩

end Command

namespace Store

theorem performs_deleteFields (registry className : String) (schema : ClassSchema)
    (names : List String) :
    (deleteFields registry className schema names).Performs
      (.setFields registry className (ClassSchema.fieldsToJson
          (names.foldl (fun d name => d.erase name) schema.fields)) ::
        (Command.dropColumns? className
          (names.filter fun name => schema.HasColumn name)).toList) := by
  have hcolumns : (names.filter fun name =>
      (schema.fieldType? name).any fun type => !type.isRelation) =
        names.filter fun name => schema.HasColumn name :=
    List.filter_congr fun name _ => (Bool.decide_coe _).symm
  refine (Program.Performs.report _).bind ((Program.Performs.perform _).bind ?_)
  dsimp only
  rw [hcolumns]
  cases Command.dropColumns? className (names.filter fun name => schema.HasColumn name) with
  | some c => exact .perform c
  | none => exact .forM []

/-- **Removing fields.**  The first command replaces the registered fields by those that are left:
the fields of the schema without the named ones.  Only when it has succeeded the second command is
sent, if there is a column to drop.  It drops the columns of the named fields that are no relations,
in the order of the names and as often as they are named, and no others: what it drops is not
registered any more, and no field that is not registered any more keeps its column.  A class table
loses these columns if no such field is named twice, and otherwise the second command is refused. -/
theorem deleteFields_drops {ω β : Type} (engine : Engine ω β) (s : Session ω β)
    (registry className : String) (schema : ClassSchema) (names : List String) :
    let p := deleteFields registry className schema names
    ∃ remaining dropped rewrite drop failure, schema.Loses names remaining dropped ∧
      InOrder (rewrite :: Option.toList drop) (p.exchanges engine s) failure ∧
      ((p.run engine s).2 = match failure with
        | none => .ok ()
        | some (_, fault) => .error fault) ∧
      ClassSchema.fieldsOfJson? (ClassSchema.fieldsToJson remaining) = some remaining ∧
      rewrite.ReplacesFields registry className (ClassSchema.fieldsToJson remaining) ∧
      (drop = none ↔ dropped = []) ∧
      (∀ c, drop = some c → c.DropsColumns className dropped) ∧
      (∀ name, dropped.count name = if schema.HasColumn name then names.count name else 0) ∧
      (∀ name, name ∈ dropped ↔ schema.HasColumn name ∧ remaining.get? name = none) ∧
      (dropped.Nodup ↔ ∀ name, schema.HasColumn name → names.count name ≤ 1) ∧
      ∀ table left, (∀ name, schema.HasColumn name → name ∈ table) →
        (ColumnRemoval.left? table dropped = some left ↔ dropped.Nodup ∧
          left = table.filter fun name => ¬ (name ∈ names ∧ schema.HasColumn name)) := by
  intro p
  have hloses := schema.loses names
  obtain ⟨failure, horder, hresult⟩ :=
    performs_deleteFields registry className schema names _ _ (p.leads_run engine s)
  refine ⟨_, _, _, _, failure, hloses, horder, hresult,
    ClassSchema.fieldsOfJson?_fieldsToJson _, Command.replacesFields_setFields registry className _,
    ?_, ?_, hloses.count_dropped, fun name => hloses.mem_dropped_iff, hloses.nodup_dropped,
    fun table left htable => hloses.left?_eq_some_iff htable⟩
  · simp [Command.dropColumns?]
  · intro c hc
    obtain ⟨hne, hsome⟩ := (Option.ite_none_left_eq_some ..).1 hc
    obtain rfl := Option.some.inj hsome
    exact Command.exists_render_dropColumns (by simpa using hne) className

/-- Widgets with a size, a weight and fans. -/
def weighed : ClassSchema :=
  (((ClassSchema.named "Widget").field "size" .number).field "weight" .number).field "fans"
    (.relation "_User")

/-- What is left without the weight and the fans. -/
def sized : ClassSchema := (ClassSchema.named "Widget").field "size" .number

/-- A registry with one class. -/
def registering (schema : ClassSchema) : Catalog :=
  Dict.empty.insert "_SCHEMA"
    ⟨Command.registryColumns, Dict.empty.insert schema.className (some schema.toJson)⟩

theorem deleteFields_drops_weighed :
    ∃ rewrite deed c,
      (deleteFields "_SCHEMA" "Widget" weighed ["weight", "fans", "colour"]).exchanges Script.engine
        (.opened "" .sound .empty) = [.execute rewrite (.ok 0), .execute c (.ok 0)] ∧
      rewrite.Does deed ∧
      deed.act Json.read? (registering weighed) = (.ok (1, []), registering sized) ∧
      c.DropsColumns "Widget" ["weight"] ∧
      ColumnRemoval.left? (weighed.columns.map Column.name) ["weight"] =
        some (sized.columns.map Column.name) := by
  obtain ⟨remaining, dropped, rewrite, drop, failure, hloses, horder, -, -, ⟨deed, hdoes, hact⟩,
    hnone, hdrop, -, -, -, htable⟩ := deleteFields_drops Script.engine (.opened "" .sound .empty)
      "_SCHEMA" "Widget" weighed ["weight", "fans", "colour"]
  obtain rfl : dropped = ["weight"] := hloses.dropped_eq
  obtain rfl : remaining = sized.fields := by
    refine Dict.ext_get? fun name => (hloses.get?_remaining name).trans ?_
    exact ((weighed.loses ["weight", "fans", "colour"]).get?_remaining name).symm
  obtain ⟨first, second, hexchanges⟩ : ∃ first second,
      (deleteFields "_SCHEMA" "Widget" weighed ["weight", "fans", "colour"]).exchanges Script.engine
        (.opened "" .sound .empty) = [.execute first (.ok 0), .execute second (.ok 0)] :=
    ⟨_, _, rfl⟩
  rw [hexchanges] at horder ⊢
  cases horder with
  | next n hrest =>
  cases drop with
  | none => cases hrest
  | some c =>
    cases hrest with
    | next n hdone =>
    have hleft : ColumnRemoval.left? (weighed.columns.map Column.name) ["weight"] =
        some (sized.columns.map Column.name) :=
      (htable _ _ fun name hcolumn => hcolumn.mem_columns).2 ⟨by decide, by decide +kernel⟩
    have hcast : Json.read? (ClassSchema.fieldsToJson sized.fields).compact =
        some (ClassSchema.fieldsToJson sized.fields) := by decide +kernel
    refine ⟨_, deed, _, rfl, hdoes, ?_, hdrop _ rfl, hleft⟩
    exact hact _ (registering weighed) _ (some weighed.toJson) _ hcast rfl rfl rfl

/-- What the engine says of a column that is not there. -/
def noSize : Fault := .engine (some 1091) "Can't DROP 'size'"

/-- An open connection on which the second statement is refused. -/
def secondRefused : Session Script Line :=
  .opened "" .sound ⟨[⟨none, 1, [], false⟩, ⟨some noSize, 0, [], false⟩], [], none⟩

/-- A field that is named twice is taken from the registry, and then its column is to be dropped
twice, which every table refuses. -/
theorem not_dropped_once :
    ((deleteFields "_SCHEMA" "Widget" sized ["size", "size"]).run Script.engine
        secondRefused).1.calls =
      [.execute ("UPDATE `_SCHEMA` SET `schema` = JSON_SET(COALESCE(`schema`, JSON_OBJECT()), " ++
          "'$.\"fields\"', CAST('\x7b\x7d' AS JSON)) WHERE `className` = 'Widget'"),
        .execute "ALTER TABLE `Widget` DROP COLUMN `size`, DROP COLUMN `size`"] ∧
      ((deleteFields "_SCHEMA" "Widget" sized ["size", "size"]).run Script.engine
        secondRefused).2 = .error noSize ∧
      (∀ table, ColumnRemoval.left? table ["size", "size"] = none) ∧
      ¬ ∀ (schema : ClassSchema) (names : List String) (s : Session Script Line) (x : Exchange)
        (c : Command) (text : String) (removal : ColumnRemoval),
        x ∈ (deleteFields "_SCHEMA" "Widget" schema names).exchanges Script.engine s →
        x.command? = some c → c.render = .ok text → ColumnRemoval.ofText? text = some removal →
          removal.columns.Nodup := by
  refine ⟨by decide +kernel, by decide +kernel, fun table => ?_, fun hall => ?_⟩
  · cases hleft : ColumnRemoval.left? table ["size", "size"] with
    | none => rfl
    | some left => exact absurd (ColumnRemoval.left?_eq_some_iff.1 hleft).1 (by decide)
  · obtain ⟨text, htext, hread⟩ : (Command.dropColumns "Widget" ["size", "size"]).DropsColumns
      "Widget" ["size", "size"] := Command.exists_render_dropColumns (by decide) "Widget"
    have hsent : Exchange.execute (.dropColumns "Widget" ["size", "size"]) (.error noSize) ∈
        (deleteFields "_SCHEMA" "Widget" sized ["size", "size"]).exchanges Script.engine
          secondRefused := List.mem_cons_of_mem _ List.mem_cons_self
    exact absurd (hall _ _ _ _ _ _ _ hsent rfl htext hread) (by decide)

end Store

end DocStore
