import DocStore.Engine.Script
import DocStore.Proofs.Command.Condition
import DocStore.Proofs.Store.Exchanges
import DocStore.Proofs.Update.Slots
import DocStore.Store.Documents

/-!
# Updates that assign something

Every operator that is read has an assignment, except for changes of relations and appends of
nothing (`Update.operatorSteps_eq_nil_iff`).  An idle update changes relations only, and sends no
update.  Appends of nothing are taken for a change, so that an update is sent without an assignment
if there is nothing besides them (`Store.assignments_updateObjects`, `Store.not_assigns`).
-/

namespace DocStore

namespace Update

/-- What is left of an update without appends of nothing. -/
def pruned (u : Update) : Update := u.filter fun x => x.2 ≠ .appendUnique []

variable {schema storage : ClassSchema} {u : Update} {o : Object} {made : List Change}
  {column : String}

theorem isIdle_iff : u.isIdle = true ↔ ∀ x ∈ u, x.2 = .relation := by
  rw [isIdle, List.all_eq_true]
  refine forall₂_congr fun x _ => ?_
  split
  · next h => simp [h]
  · next h => simpa using h

theorem isIdle_pruned_iff :
    u.pruned.isIdle = true ↔ ∀ x ∈ u, x.2 = .relation ∨ x.2 = .appendUnique [] := by
  rw [isIdle_iff, pruned, List.forall_mem_filter]
  refine forall₂_congr fun x _ => ?_
  rw [decide_eq_true_iff, or_comm, Decidable.or_iff_not_imp_left]

/-! ### Operators without assignments -/

theorem patchSteps_eq_nil_iff {p : Patch} : patchSteps p = [] ↔ p = .empty := by
  obtain ⟨deletes, increments, sets, whole⟩ := p
  cases deletes <;> cases increments <;> cases sets <;> cases whole <;>
    simp [patchSteps, Patch.empty]

theorem addTo_ne_empty (p : Patch) (change : Patch.Part) : change.addTo p ≠ .empty := by
  cases change <;> simp [Patch.Part.addTo, Patch.empty]

/-- Every patch of an update changes something. -/
theorem ne_patch_empty (h : ofObject schema o = .ok u) : ∀ x ∈ u, x.2 ≠ .patch .empty := by
  refine ofObject_keeps (P := fun _ u => ∀ x ∈ u, x.2 ≠ .patch .empty) (by simp) ?_ h
  intro before e c u _ hc hu
  cases c with
  | part change =>
    refine (joined_alterPatch _ _ u).forall_mem ?_ (fun p _ => ?_) hu
    · simpa using addTo_ne_empty .empty change
    · simpa using addTo_ne_empty p change
  | providers entries => exact (joined_addProviders entries u).forall_mem nofun nofun hu
  | operator op =>
    refine List.forall_mem_append.2 ⟨hu, List.forall_mem_singleton.2 ?_⟩
    rintro rfl
    cases (reaches_of_contribution hc).operator _ rfl

theorem operatorSteps_eq_nil_iff {op : Operator} {steps : List Step} (hne : op ≠ .patch .empty)
    (h : operatorSteps storage column op = .ok steps) :
    steps = [] ↔ op = .relation ∨ op = .appendUnique [] := by
  cases op with
  | set operand =>
    obtain ⟨e, -, rfl⟩ := Result.map_eq_ok.1 h
    simp
  | patch p =>
    cases h
    rw [patchSteps_eq_nil_iff]
    simpa using hne
  | clear | increment | append | appendUnique | remove | providers | relation =>
    cases h
    simp

/-! ### Updates without assignments -/

theorem assignments_ofChanges_eq_nil_iff :
    (SetClause.ofChanges made).assignments = [] ↔ ∀ c ∈ made, c.steps = [] := by
  have hsteps : ∀ c n steps, Step.assignments c n steps = [] ↔ steps = [] := by
    intro c n steps
    cases steps <;> simp [Step.assignments]
  induction made with
  | nil => simp [SetClause.ofChanges]
  | cons c rest ih =>
    simp [SetClause.ofChanges, SetClause.ofChange, SetClause.shift, hsteps, ih]

/-- An operator of a column that has an assignment. -/
def Assigns (column : String) (x : String × Operator) : Prop :=
  x.1 = column ∧ x.2 ≠ .relation ∧ x.2 ≠ .appendUnique []

/-- A column is changed if one of its operators assigns. -/
theorem exists_steps_iff (hne : ∀ x ∈ u, x.2 ≠ .patch .empty) (h : changesIn storage u = .ok made)
    (column : String) :
    (∃ c ∈ made, c.column = column ∧ c.steps ≠ []) ↔ ∃ x ∈ u, Assigns column x := by
  induction u generalizing made with
  | nil =>
    cases h
    simp
  | cons x rest ih =>
    obtain ⟨name, op⟩ := x
    rw [List.forall_mem_cons] at hne
    rw [List.exists_mem_cons_iff]
    rcases changesIn_cons h with ⟨rfl, h⟩ | ⟨hrelation, steps, others, hsteps, hothers, rfl⟩
    · rw [ih hne.2 h]
      simp [Assigns]
    · rw [List.exists_mem_cons_iff, ih hne.2 hothers, Assigns, Ne,
        operatorSteps_eq_nil_iff hne.1 hsteps, not_or]

theorem forall_steps_eq_nil_iff (hne : ∀ x ∈ u, x.2 ≠ .patch .empty)
    (h : changesIn storage u = .ok made) :
    (∀ c ∈ made, c.steps = []) ↔ ∀ x ∈ u, x.2 = .relation ∨ x.2 = .appendUnique [] := by
  constructor
  · intro hall x hx
    by_contra hassigns
    rw [not_or] at hassigns
    obtain ⟨c, hc, -, hsteps⟩ := (exists_steps_iff hne h x.1).2 ⟨x, hx, rfl, hassigns⟩
    exact hsteps (hall c hc)
  · intro hall c hc
    by_contra hsteps
    obtain ⟨x, hx, -, hrelation, happend⟩ :=
      (exists_steps_iff hne h c.column).1 ⟨c, hc, rfl, hsteps⟩
    exact (hall x hx).elim hrelation happend

/-- **The changes of an update have no assignment** if and only if nothing is left of it but changes
of relations. -/
theorem assignments_eq_nil_iff (h : ofObject schema o = .ok u)
    (hmade : u.changes schema = .ok made) :
    (SetClause.ofChanges made).assignments = [] ↔ u.pruned.isIdle = true := by
  rw [assignments_ofChanges_eq_nil_iff, isIdle_pruned_iff]
  exact forall_steps_eq_nil_iff (ne_patch_empty h) hmade

theorem assignments_compile_eq_nil_iff {start : Nat} {s : SetClause} (h : ofObject schema o = .ok u)
    (hs : compile schema o start = .ok s) : s.assignments = [] ↔ u.pruned.isIdle = true := by
  obtain ⟨v, hv, hs⟩ := Result.bind_eq_ok.1 hs
  obtain rfl : u = v := Except.ok.inj (h.symm.trans hv)
  obtain ⟨made, hmade, hs⟩ := Result.bind_eq_ok.1 hs
  cases hs
  rw [SetClause.shift, List.map_eq_nil_iff, assignments_eq_nil_iff h hmade]

end Update

namespace Store

open Program (Sends)

variable {ω β : Type} {className : String} {schema : ClassSchema} {query update : Object}
  {u : Update} {P : Command → Prop}

/-- A program that finds documents sends selections only. -/
theorem sends_find (hP : ∀ table selection, P (.select table selection)) (options : FindOptions) :
    (find className schema query options).Sends P := by
  refine Sends.report (Sends.lift fun q _ => Sends.lift fun c hc => ?_)
  obtain ⟨selection, -, rfl⟩ := Query.selectCommand_eq_ok.1 hc
  exact (Sends.queryAs _ _ (hP className selection)).bind fun rows => trivial

/-- An update of documents sends selections, and an update with the changes that it makes unless it
is idle. -/
theorem sends_updateObjects (h : Update.ofObject schema update = .ok u)
    (hselect : ∀ table selection, P (.select table selection))
    (hupdate : ∀ table made filter, u.isIdle = false → u.changes schema = .ok made →
      P (.update table made filter)) :
    (updateObjects className schema query update).Sends P := by
  refine Sends.report (Sends.lift fun v hv => ?_)
  obtain rfl : u = v := Except.ok.inj (h.symm.trans hv)
  dsimp only
  split
  · exact sends_find hselect _
  · next hidle =>
    refine Sends.lift fun q _ => Sends.lift fun c hc => ?_
    obtain ⟨made, filter, hmade, -, rfl⟩ := Query.updateCommand_eq_ok.1 hc
    have hsent := hupdate className made filter (by simpa using hidle) hmade
    refine (Sends.executeAs _ _ hsent).bind fun affected => ?_
    split
    · trivial
    · exact sends_find hselect _

/-- **Updates assign something** unless all their operators are about relations or append nothing,
and an update that is sent is not idle. -/
theorem assignments_updateObjects (h : Update.ofObject schema update = .ok u) :
    (∀ start s, Update.compile schema update start = .ok s →
      (s.assignments = [] ↔ u.pruned.isIdle = true)) ∧
    ∀ (engine : Engine ω β) (s : Session ω β),
      ∀ x ∈ (updateObjects className schema query update).exchanges engine s,
        ∀ table made filter, x.command? = some (.update table made filter) →
          u.isIdle = false ∧
            ((SetClause.ofChanges made).assignments = [] ↔ u.pruned.isIdle = true) := by
  refine ⟨fun start s hs => Update.assignments_compile_eq_nil_iff h hs, ?_⟩
  intro engine s x hx table made filter hcommand
  have hsends : (updateObjects className schema query update).Sends fun c =>
      ∀ table made filter, c = .update table made filter → u.isIdle = false ∧
        ((SetClause.ofChanges made).assignments = [] ↔ u.pruned.isIdle = true) := by
    refine sends_updateObjects h (fun _ _ => nofun) ?_
    rintro table made filter hidle hmade _ _ _ ⟨⟩
    exact ⟨hidle, Update.assignments_eq_nil_iff h hmade⟩
  exact hsends.of_mem hx hcommand table made filter rfl

/-- Widgets with tags and fans. -/
def tagged : ClassSchema := ((ClassSchema.named "Widget").field "tags" .array).field "fans"
  (.relation "_User")

/-- An operator with objects. -/
def withObjects (name : String) (objects : List Json) : Json :=
  .obj [("__op", .str name), ("objects", .arr objects)]

/-- A new fan, and a tag that is appended if it is not there. -/
def tagChange : Object :=
  [("fans", withObjects "AddRelation" []), ("tags", withObjects "AddUnique" [.str "new"])]

theorem assignments_updateObjects_tagChange :
    Update.ofObject tagged tagChange =
        .ok [("fans", .relation), ("tags", .appendUnique [.str "new"])] ∧
      ∃ made filter, Exchange.execute (.update "Widget" made filter) (.ok 0) ∈
          (updateObjects "Widget" tagged [] tagChange).exchanges Script.engine
            (.opened "" .sound .empty) ∧
        (SetClause.ofChanges made).assignments ≠ [] := by
  have hread : Update.ofObject tagged tagChange =
      .ok [("fans", .relation), ("tags", .appendUnique [.str "new"])] := by decide +kernel
  obtain ⟨made, filter, hexchanges⟩ : ∃ made filter,
      (updateObjects "Widget" tagged [] tagChange).exchanges Script.engine
          (.opened "" .sound .empty) =
        [.execute (.update "Widget" made filter) (.ok 0)] := ⟨_, _, rfl⟩
  have hmem : Exchange.execute (.update "Widget" made filter) (.ok 0) ∈
      (updateObjects "Widget" tagged [] tagChange).exchanges Script.engine
        (.opened "" .sound .empty) := by
    rw [hexchanges]
    exact List.mem_cons_self
  refine ⟨hread, made, filter, hmem, fun hnone => ?_⟩
  have hassigns := (assignments_updateObjects hread).2 Script.engine _ _ hmem _ _ _ rfl
  exact absurd (hassigns.2.1 hnone) (by decide +kernel)

/-- No tags are appended, which is neither idle nor an assignment, and the update that is sent sets
nothing. -/
theorem not_assigns :
    Update.ofObject tagged [("tags", withObjects "AddUnique" [])] =
        .ok [("tags", .appendUnique [])] ∧
      Update.isIdle [("tags", .appendUnique [])] = false ∧
      Update.compile tagged [("tags", withObjects "AddUnique" [])] 2 = .ok ⟨[], [.ident "tags"]⟩ ∧
      ((updateObjects "Widget" tagged [] [("tags", withObjects "AddUnique" [])]).run Script.engine
          (.opened "" .sound .empty)).1.calls = [.execute "UPDATE `Widget` SET  WHERE TRUE"] ∧
      ¬ ∀ schema o u start s, Update.ofObject schema o = .ok u →
        Update.compile schema o start = .ok s → (s.assignments = [] ↔ u.isIdle = true) := by
  have hread : Update.ofObject tagged [("tags", withObjects "AddUnique" [])] =
      .ok [("tags", .appendUnique [])] := by decide +kernel
  have hcompile : Update.compile tagged [("tags", withObjects "AddUnique" [])] 2 =
      .ok ⟨[], [.ident "tags"]⟩ := by decide +kernel
  refine ⟨hread, rfl, hcompile, by decide +kernel, fun hall => ?_⟩
  exact absurd ((hall _ _ _ _ _ hread hcompile).1 rfl) (by decide)

end Store

end DocStore
