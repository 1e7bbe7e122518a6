import DocStore.Proofs.Command.Clear
import DocStore.Proofs.Query.Writing
import DocStore.Proofs.Store.Assigning
import DocStore.Proofs.Store.Operations
import DocStore.Proofs.Update.Writing

/-!
# Placeholders of compiled queries and updates

A query or an update that is compiled from some number on is the one that is compiled from one on,
with the same parameters, and with every placeholder moved.  So it can be put behind the parameters
of any statement: every placeholder has the number of a parameter of its own
(`Store.compiled_relocates`).

Every command of an operation is one that the store writes itself (`Operation.sends_own`), so none
of them fails to be written.
-/

namespace DocStore

open Sql

/-! ### Moving texts -/

namespace Sql.Template

/-- A text whose placeholders are moved behind `k` parameters. -/
def relocate (k : Nat) (text : String) : String := ((scan text).shift k).print

theorem print_flush (read : List Char) : print (flush read) = String.ofList read.reverse := by
  cases read with
  | nil => rfl
  | cons c read => simp [flush, print, Piece.print]

/-- Texts that are put together have the same text. -/
theorem print_mergeFrom (read : List Char) (t : Template) :
    print (mergeFrom read t) = String.ofList read.reverse ++ print t := by
  induction t generalizing read with
  | nil =>
    rw [mergeFrom, print_flush]
    exact (String.append_empty).symm
  | cons p t ih =>
    cases p with
    | text s => simp [mergeFrom, ih, print_cons, Piece.print, String.append_assoc]
    | slot n | wide n => simp [mergeFrom, print_append, print_flush, print_cons, ih]

theorem shift_flush (k : Nat) (read : List Char) : shift k (flush read) = flush read := by
  cases read <;> rfl

/-- Placeholders that are moved stand between the same texts. -/
theorem shift_mergeFrom {lo hi : Nat} {t : Template} (h : t.Within lo hi) (k : Nat)
    (read : List Char) : shift k (mergeFrom read t) = mergeFrom read (t.shift k) := by
  induction t generalizing read with
  | nil => exact shift_flush k read
  | cons p t ih =>
    obtain ⟨hp, ht⟩ := within_cons.1 h
    cases p with
    | text s => exact ih ht _
    | slot n =>
      change shift k (flush read ++ .slot n :: mergeFrom [] t) = _
      rw [shift_append, shift_flush]
      exact congrArg (flush read ++ .slot (n + k) :: ·) (ih ht [])
    | wide n => exact hp.elim

/-- **The text of a clear template, moved,** is the text of the template that is moved. -/
theorem relocate_print {hi : Nat} (hhi : hi ≤ 2 ^ 64) {t : Template} {free : Bool}
    (hclear : Clear free t) (hwithin : t.Within 1 hi) (k : Nat) :
    relocate k t.print = (t.shift k).print := by
  rw [relocate, scan_print hhi hclear hwithin, merge, shift_mergeFrom hwithin,
    print_mergeFrom]
  simp

end Sql.Template

/-! ### Commands of operations -/

open Program (Sends)

namespace Command

theorem isOwn_of_mem_createTables {className : String} {schema : ClassSchema} {c : Command}
    (h : c ∈ createTables className schema) : c.IsOwn := by
  rcases List.mem_cons.1 h with rfl | h
  · trivial
  · obtain ⟨field, -, rfl⟩ := List.mem_map.1 h
    trivial

theorem isOwn_addField (className field : String) (type : FieldType) :
    (addField className field type).IsOwn := by
  unfold addField
  split <;> trivial

theorem isOwn_of_dropColumns? {table : String} {columns : List String} {c : Command}
    (h : dropColumns? table columns = some c) : c.IsOwn := by
  unfold dropColumns? at h
  split at h
  · cases h
  · cases h
    trivial

end Command

namespace Store

variable {registry className : String} {schema : ClassSchema} {query update : Object}

theorem sends_own_createObject (now : String) (object : Object) :
    (createObject now className schema object).Sends Command.IsOwn :=
  .report (.lift fun _ _ => (Sends.executeAs _ _ trivial).bind fun _ => trivial)

theorem sends_own_updateObjects :
    (updateObjects className schema query update).Sends Command.IsOwn := by
  cases hread : Update.ofObject schema update with
  | error fault => exact .report (.lift fun u hu => nomatch hread.symm.trans hu)
  | ok u => exact sends_updateObjects hread (fun _ _ => trivial) fun _ _ _ _ _ => trivial

theorem sends_own_findOneAndUpdate :
    (findOneAndUpdate className schema query update).Sends Command.IsOwn :=
  .report (sends_own_updateObjects.bind fun _ => trivial)

theorem sends_own_ensureRegistry (registry : String) :
    (ensureRegistry registry).Sends Command.IsOwn :=
  .report (.perform trivial)

theorem sends_own_createTable :
    (createTable registry className schema).Sends Command.IsOwn := by
  refine .report (.lift fun _ _ => (sends_own_ensureRegistry registry).bind fun _ => ?_)
  exact .forM fun c hc => .perform (Command.isOwn_of_mem_createTables hc)

theorem sends_own_createBootstrapTable :
    (createBootstrapTable registry schema).Sends Command.IsOwn := by
  refine sends_own_createTable.attempt.bind fun created => ?_
  split <;> trivial

theorem sends_own_classExists (className : String) :
    (classExists className).Sends Command.IsOwn := by
  refine .report ((Sends.attempt (.rows trivial)).bind fun found => ?_)
  split <;> trivial

end Store

namespace Operation

/-- **Every command of an operation is written by the store itself**, whatever is answered. -/
theorem sends_own (op : Operation) : op.program.Sends Command.IsOwn := by
  cases op with
  | createObject now className schema object => exact Store.sends_own_createObject now object
  | find className schema query options => exact Store.sends_find (fun _ _ => trivial) options
  | count className schema query =>
    refine .report (.lift fun _ _ => .lift fun c hc => ?_)
    obtain ⟨filter, -, rfl⟩ := Query.countCommand_eq_ok.1 hc
    exact (Sends.queryAs _ _ trivial).bind fun _ => trivial
  | updateObjects className schema query update => exact Store.sends_own_updateObjects
  | findOneAndUpdate className schema query update => exact Store.sends_own_findOneAndUpdate
  | upsertObject now className schema query update =>
    refine .report ((Store.sends_own_createObject now _).attempt.bind fun created => ?_)
    split
    · trivial
    · exact Store.sends_own_findOneAndUpdate.bind fun _ => trivial
    · trivial
  | deleteObjects className schema query =>
    refine .report (.lift fun _ _ => .lift fun c hc => ?_)
    obtain ⟨filter, -, rfl⟩ := Query.deleteCommand_eq_ok.1 hc
    refine (Sends.executeAs _ _ trivial).bind fun affected => ?_
    split <;> trivial
  | shutdown => exact fun _ => trivial
  | ensureRegistry registry => exact Store.sends_own_ensureRegistry registry
  | createTable registry className schema => exact Store.sends_own_createTable
  | createClass registry className schema =>
    exact .report (Store.sends_own_createTable.bind fun _ =>
      (Sends.executeAs _ _ trivial).bind fun _ => trivial)
  | addField registry className field type =>
    refine .report (.lift fun _ _ =>
      (Sends.executeAs _ _ (Command.isOwn_addField className field type)).bind fun _ =>
        (Sends.rows trivial).bind fun rows => .lift fun registered _ => ?_)
    split
    · exact .perform trivial
    · split <;> trivial
  | deleteFields registry className schema fields =>
    refine .report ((Sends.perform trivial).bind fun _ => ?_)
    dsimp only
    split
    · next c hc => exact .perform (Command.isOwn_of_dropColumns? hc)
    · trivial
  | deleteClass registry className =>
    refine .report ?_
    split
    · trivial
    · exact (Sends.perform trivial).bind fun _ => trivial
  | ensureUniqueness className schema fields =>
    refine .report ?_
    split
    · trivial
    · exact (Sends.executeAs _ _ trivial).bind fun _ => trivial
  | createFullTextIndex className fields =>
    exact .report ((Sends.executeAs _ _ trivial).bind fun _ => trivial)
  | allClasses registry | getClass registry className =>
    exact .report ((Store.sends_own_ensureRegistry registry).bind fun _ =>
      (Sends.rows trivial).bind fun _ => trivial)
  | setPermissions registry className permissions =>
    exact .report ((Store.sends_own_ensureRegistry registry).bind fun _ => .perform trivial)
  | deleteAllClasses config =>
    refine .report ((Sends.queryAs _ _ trivial).bind fun found => ?_)
    split
    · trivial
    · exact .lift fun _ _ => (Sends.executeAs _ _ trivial).bind fun _ => trivial
  | bootstrap registry schemas =>
    exact .report (.forM fun _ _ => Store.sends_own_createBootstrapTable)

end Operation

/-! ### Compiling from a number on -/

/-- Templates over `count` parameters can be written from number `start` on: every placeholder has
the number of one of the parameters, and the texts are those from one on with every placeholder
moved, as far as numbers fit a machine word. -/
structure Sql.Template.Relocates (start count : Nat) (ts : List Template) : Prop where
  within : ∀ t ∈ ts, (t.shift (start - 1)).Within start (start + count)
  print : count < 2 ^ 64 →
    ∀ t ∈ ts, (t.shift (start - 1)).print = relocate (start - 1) t.print

theorem Sql.Template.relocates_of_clear {start count : Nat} (hstart : 1 ≤ start)
    {ts : List Template} (hclear : ∀ t ∈ ts, Clear true t)
    (hwithin : ∀ t ∈ ts, t.Within 1 (count + 1)) : Relocates start count ts where
  within t ht := ((hwithin t ht).shift (start - 1)).mono (by omega) (by omega)
  print hcount t ht := (relocate_print hcount (hclear t ht) (hwithin t ht) (start - 1)).symm

namespace WhereClause

/-- The templates of a condition. -/
def templates (w : WhereClause) : List Template := w.pattern :: (w.sorts ++ w.score.toList)

end WhereClause

namespace Query

variable (schema : ClassSchema) (q : Query) {start : Nat}

theorem compile_eq_map :
    q.compile schema start = (q.compile schema 1).map (WhereClause.shift (start - 1)) := by
  unfold compile
  cases q.filter schema with
  | error fault => rfl
  | ok f => simp [Except.map]

theorem relocates_compile (hstart : 1 ≤ start) {v : WhereClause}
    (h : q.compile schema 1 = .ok v) : Template.Relocates start v.params.length v.templates := by
  obtain ⟨f, -, rfl⟩ := Result.map_eq_ok.1 h
  have hclear := f.clear_whereClause
  have hscoped := f.scoped_whereClause
  rw [WhereClause.shift_zero]
  refine Template.relocates_of_clear hstart ?_ ?_
  · simpa [WhereClause.templates, or_imp, forall_and] using
      ⟨hclear.pattern, hclear.sorts, hclear.score⟩
  · simpa [WhereClause.templates, or_imp, forall_and] using
      ⟨hscoped.pattern, hscoped.sorts, hscoped.score⟩

end Query

namespace Update

variable (schema : ClassSchema) (o : Object) {start : Nat}

theorem compile_eq_map :
    compile schema o start = (compile schema o 1).map (SetClause.shift (start - 1)) := by
  unfold compile
  cases ofObject schema o with
  | error fault => rfl
  | ok u =>
    dsimp only [bind, Except.bind]
    cases u.changes schema with
    | error fault => rfl
    | ok made => simp [Except.map, pure, Except.pure, SetClause.shift]

theorem relocates_compile (hstart : 1 ≤ start) {c : SetClause}
    (h : compile schema o 1 = .ok c) : Template.Relocates start c.params.length c.assignments := by
  obtain ⟨u, -, h⟩ := Result.bind_eq_ok.1 h
  obtain ⟨made, -, h⟩ := Result.bind_eq_ok.1 h
  cases h
  have hclear := SetClause.clear_ofChanges made
  have hscoped := SetClause.scoped_ofChanges made
  rw [SetClause.shift_zero]
  exact Template.relocates_of_clear hstart hclear.assignments hscoped

end Update

namespace Store

/-- **Queries and updates can be compiled from any number on.**  Compiled from `start` on they fail
as they do from one on, or else have the same parameters, and their templates are moved: that is
what one pass comes to which numbers the parameters as they come.  So whatever an operation asks of
the engine can be written. -/
theorem compiled_relocates {ω β : Type} (engine : Engine ω β) (s : Session ω β)
    (schema : ClassSchema) {start : Nat} (hstart : 1 ≤ start) :
    (∀ q : Query, q.compile schema start = q.write schema start ∧
      q.compile schema start = (q.compile schema 1).map (WhereClause.shift (start - 1)) ∧
      ∀ v, q.compile schema 1 = .ok v →
        Template.Relocates start v.params.length v.templates) ∧
    (∀ o : Object, Update.compile schema o start = Update.write schema o start ∧
      Update.compile schema o start =
        (Update.compile schema o 1).map (SetClause.shift (start - 1)) ∧
      ∀ c, Update.compile schema o 1 = .ok c →
        Template.Relocates start c.params.length c.assignments) ∧
    (∀ op : Operation, ∀ x ∈ op.program.exchanges engine s, ∀ c, x.command? = some c →
      ∃ text, c.render = .ok text) ∧
    ∀ className, ∀ x ∈ (classExists className).exchanges engine s, ∀ c, x.command? = some c →
      ∃ text, c.render = .ok text := by
  refine ⟨fun q => ⟨q.compile_eq_write schema start, q.compile_eq_map schema,
    fun v hv => q.relocates_compile schema hstart hv⟩, fun o => ⟨Update.compile_eq_write schema o
    start, Update.compile_eq_map schema o, fun c hc => Update.relocates_compile schema o hstart hc⟩,
    ?_, ?_⟩
  · intro op x hx c hc
    exact ⟨_, Command.render_eq (op.sends_own.of_mem hx hc)⟩
  · intro className x hx c hc
    exact ⟨_, Command.render_eq ((sends_own_classExists className).of_mem hx hc)⟩

/-- Shops with a name and opening hours. -/
def shops : ClassSchema :=
  ((ClassSchema.named "Shop").field "name" .string).field "hours" .object

/-- Shops whose name mentions tea and is not a certain one, or that open at nine. -/
def teaShops : Query :=
  [.connect .or [[.field "name" [.text "tea" none, .notEqual (.str "Leaf")]],
    [.field "hours.from" [.equals (.num (.int 9))]]]]

/-- Shops close at six. -/
def earlyClosing : Object := [("hours.to", .num (.int 18))]

theorem compiled_relocates_shops :
    1 ≤ 4 ∧
      (∃ v, teaShops.compile shops 1 = .ok v ∧ Template.Relocates 4 v.params.length v.templates ∧
        v.templates.map (fun t => (t.shift 3).print) =
          ["(MATCH ($4) AGAINST ($5) AND ($4 <> $6 OR $4 IS NULL) OR $7->>$8 = $9)",
            "MATCH ($4) AGAINST ($5)"]) ∧
      (∃ c, Update.compile shops earlyClosing 1 = .ok c ∧
        Template.Relocates 4 c.params.length c.assignments) ∧
      (∃ text, Exchange.execute (.dropClass "_SCHEMA" "Shop") (.ok 0) ∈
          (Operation.deleteClass "_SCHEMA" "Shop").program.exchanges Script.engine
            (.opened "" .sound .empty) ∧
        (Command.dropClass "_SCHEMA" "Shop").render = .ok text) ∧
      ∃ text, Exchange.query (.findTable "Shop") (.ok []) ∈
          (classExists "Shop").exchanges Script.engine (.opened "" .sound .empty) ∧
        (Command.findTable "Shop").render = .ok text := by
  obtain ⟨hqueries, hupdates, hoperations, hprobe⟩ :=
    compiled_relocates Script.engine (.opened "" .sound .empty) shops (by decide : 1 ≤ 4)
  obtain ⟨v, hv, htexts⟩ : ∃ v, teaShops.compile shops 1 = .ok v ∧
      v.templates.map (fun t => (t.shift 3).print) =
        ["(MATCH ($4) AGAINST ($5) AND ($4 <> $6 OR $4 IS NULL) OR $7->>$8 = $9)",
          "MATCH ($4) AGAINST ($5)"] := ⟨_, rfl, by decide +kernel⟩
  obtain ⟨c, hc⟩ : ∃ c, Update.compile shops earlyClosing 1 = .ok c := ⟨_, rfl⟩
  have hdrop : Exchange.execute (.dropClass "_SCHEMA" "Shop") (.ok 0) ∈
      (Operation.deleteClass "_SCHEMA" "Shop").program.exchanges Script.engine
        (.opened "" .sound .empty) := List.mem_cons_self
  have hfind : Exchange.query (.findTable "Shop") (.ok []) ∈
      (classExists "Shop").exchanges Script.engine (.opened "" .sound .empty) :=
    List.mem_cons_self
  obtain ⟨dropText, hdropText⟩ := hoperations _ _ hdrop _ rfl
  obtain ⟨findText, hfindText⟩ := hprobe _ _ hfind _ rfl
  exact ⟨by decide, ⟨v, hv, (hqueries teaShops).2.2 v hv, htexts⟩,
    ⟨c, hc, (hupdates earlyClosing).2.2 c hc⟩, ⟨dropText, hdrop, hdropText⟩,
    ⟨findText, hfind, hfindText⟩⟩

end Store

end DocStore
