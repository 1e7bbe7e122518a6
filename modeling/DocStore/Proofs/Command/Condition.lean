import DocStore.Proofs.Command.Scope
import DocStore.Proofs.Result

/-!
# One condition for all commands

A query has one condition, and counting, deleting, updating and selecting all use it.  They write
it behind different numbers of parameters: the table comes first, and in an update the assignments
come between.  Moving a condition does not change its text (`Filter.fill_condition`), so all four
name the same rows (`Query.commands_share_condition`): what is counted is what would be deleted,
updated or read.
-/

namespace DocStore

open Sql

/-- The condition of a filter reads the same behind the parameters `front` and in front of the
parameters `back`. -/
theorem Filter.fill_condition (f : Filter) (front back : List Param) :
    (f.whereClause.shift front.length).condition.fill
        (Param.textAt (front ++ (f.whereClause.params ++ back))) =
      f.whereClause.condition.fill (Param.textAt f.whereClause.params) := by
  rw [WhereClause.condition_shift]
  exact Template.fill_placed f.scoped_whereClause.condition front back

theorem Filter.fill_condition_behind (f : Filter) (p : Param) :
    (f.whereClause.shift 1).condition.fill (Param.textAt (p :: f.whereClause.params)) =
      f.whereClause.condition.fill (Param.textAt f.whereClause.params) := by
  have h := f.fill_condition [p] []
  rwa [List.append_nil, List.singleton_append, List.length_singleton] at h

/-- The texts of the assignments, each by itself. -/
def SetClause.texts (s : SetClause) : Except Fault (List String) :=
  s.assignments.mapM fun t => Statement.render ⟨t, s.params⟩

theorem SetClause.texts_ofChanges (changes : List Change) :
    (ofChanges changes).texts =
      .ok ((ofChanges changes).assignments.map
        fun t => t.fill (Param.textAt (ofChanges changes).params)) :=
  Result.mapM_eq_ok fun t ht => Statement.render_eq (scoped_ofChanges changes t ht)

namespace Query

/-! ### The commands of a query -/

section Commands

variable {className : String} {schema : ClassSchema} {q : Query} {c : Command}

theorem countCommand_eq_ok : countCommand className schema q = .ok c ↔
    ∃ f, q.filter schema = .ok f ∧ c = .count className f := by
  rw [countCommand, Result.map_eq_ok]
  simp only [eq_comm]

theorem deleteCommand_eq_ok : deleteCommand className schema q = .ok c ↔
    ∃ f, q.filter schema = .ok f ∧ c = .delete className f := by
  rw [deleteCommand, Result.map_eq_ok]
  simp only [eq_comm]

theorem updateCommand_eq_ok {u : Update} : updateCommand className schema q u = .ok c ↔
    ∃ changes f, u.changes schema = .ok changes ∧ q.filter schema = .ok f ∧
      c = .update className changes f := by
  rw [updateCommand]
  constructor
  · intro h
    obtain ⟨changes, hchanges, h⟩ := Result.bind_eq_ok.1 h
    obtain ⟨f, hf, h⟩ := Result.bind_eq_ok.1 h
    exact ⟨changes, f, hchanges, hf, (Except.ok.inj h).symm⟩
  · rintro ⟨changes, f, hchanges, hf, rfl⟩
    rw [hchanges, hf]
    rfl

theorem selectCommand_eq_ok {options : FindOptions} :
    selectCommand className schema q options = .ok c ↔
      ∃ s, q.select schema options = .ok s ∧ c = .select className s := by
  rw [selectCommand, Result.map_eq_ok]
  simp only [eq_comm]

end Commands

/-- The condition of a query as SQL, compiled by itself. -/
def conditionText (schema : ClassSchema) (q : Query) : Except Fault String := do
  let w ← q.compile schema 1
  Statement.render ⟨w.condition, w.params⟩

theorem conditionText_eq {schema : ClassSchema} {q : Query} {f : Filter}
    (h : q.filter schema = .ok f) :
    q.conditionText schema =
      .ok (f.whereClause.condition.fill (Param.textAt f.whereClause.params)) := by
  have hcompile : q.compile schema 1 = .ok (f.whereClause.shift 0) := by
    rw [compile, h]
    rfl
  have hscoped : Statement.Scoped ⟨(f.whereClause.shift 0).condition, f.whereClause.params⟩ :=
    f.scoped_whereClause.condition_shift 0
  rw [conditionText, hcompile]
  refine (Statement.render_eq hscoped).trans ?_
  rw [WhereClause.condition_shift, Template.shift_zero]

theorem compile_eq_error {schema : ClassSchema} {q : Query} {start : Nat} {fault : Fault} :
    q.compile schema start = .error fault ↔ q.filter schema = .error fault :=
  Result.map_eq_error

/-- A selection is made with the filter of its query. -/
theorem filter_of_select {schema : ClassSchema} {q : Query} {options : FindOptions} {s : Selection}
    (h : q.select schema options = .ok s) : q.filter schema = .ok s.filter := by
  obtain ⟨f, hf, h⟩ := Result.bind_eq_ok.1 h
  rw [hf]
  dsimp only at h
  split at h
  · obtain ⟨order, -, h⟩ := Result.bind_eq_ok.1 h
    cases h
    rfl
  · cases h
    rfl

/-! ### The texts of the commands -/

variable (className : String) (schema : ClassSchema) (q : Query)

theorem render_count (f : Filter) :
    (Command.count className f).render =
      .ok ("SELECT COUNT(*) AS `count` FROM " ++ quoteName className ++ " WHERE " ++
        f.whereClause.condition.fill (Param.textAt f.whereClause.params)) := by
  have hcondition := f.fill_condition_behind (.ident className)
  refine (Statement.render_eq (Statement.scoped_countRows className f)).trans ?_
  simp [Statement.countRows, hcondition, Param.render, String.append_assoc]

theorem render_delete (f : Filter) :
    (Command.delete className f).render =
      .ok ("DELETE FROM " ++ quoteName className ++ " WHERE " ++
        f.whereClause.condition.fill (Param.textAt f.whereClause.params)) := by
  have hcondition := f.fill_condition_behind (.ident className)
  refine (Statement.render_eq (Statement.scoped_deleteRows className f)).trans ?_
  simp [Statement.deleteRows, hcondition, Param.render, String.append_assoc]

theorem render_update (changes : List Change) (f : Filter) :
    (Command.update className changes f).render =
      .ok ("UPDATE " ++ quoteName className ++ " SET " ++
        ", ".intercalate ((SetClause.ofChanges changes).assignments.map
          fun t => t.fill (Param.textAt (SetClause.ofChanges changes).params)) ++
        " WHERE " ++ f.whereClause.condition.fill (Param.textAt f.whereClause.params)) := by
  let set := SetClause.ofChanges changes
  -- in front of the condition stand the table and the parameters of the assignments
  have hcondition := f.fill_condition (.ident className :: set.params) []
  have hset : ∀ t ∈ set.assignments,
      (t.shift 1).fill (Param.textAt (.ident className :: (set.params ++ f.whereClause.params))) =
        t.fill (Param.textAt set.params) := fun t ht =>
    Template.fill_placed (SetClause.scoped_ofChanges changes t ht) [.ident className] _
  have hassignments : (set.shift 1).assignments.map (Template.fill
      (Param.textAt (.ident className :: (set.params ++ f.whereClause.params)))) =
        set.assignments.map fun t => t.fill (Param.textAt set.params) := by
    rw [SetClause.shift, List.map_map]
    exact List.map_congr_left hset
  simp only [List.append_nil, List.cons_append, List.length_cons] at hcondition
  refine (Statement.render_eq (Statement.scoped_updateRows className changes f)).trans ?_
  simp [Statement.updateRows, Template.fill_join, ← hcondition, ← hassignments, Param.render,
    String.append_assoc, Nat.add_comm, set]

/-- The condition of a selection, in front of what follows it. -/
theorem render_select (s : Selection) :
    (Command.select className s).render =
      .ok ("SELECT " ++
        (if s.columnTexts.isEmpty then "*" else ", ".intercalate (s.columnTexts.map
          (Template.fill (Param.textAt (s.statement className).params)))) ++
        " FROM " ++ quoteName className ++ " WHERE " ++
        s.filter.whereClause.condition.fill (Param.textAt s.filter.whereClause.params) ++
        ((Selection.listAfter " ORDER BY " s.orderTexts).fill
            (Param.textAt (s.statement className).params) ++
          (Selection.countParts s.firstCount s.counts).fill
            (Param.textAt (s.statement className).params))) := by
  -- behind the condition stand the columns, the relevance, the order and the row counts
  have hcondition := s.filter.fill_condition [.ident className]
    (s.columns.map .ident ++ s.scoreRead.toList.map (fun _ => .ident "score") ++
      s.wished.flatMap OrderItem.params ++ s.counts.map fun e => Selection.countParam e.2)
  have hparams : (s.statement className).params =
      .ident className :: (s.filter.whereClause.params ++
        (s.columns.map .ident ++ s.scoreRead.toList.map (fun _ => .ident "score") ++
          s.wished.flatMap OrderItem.params ++
          s.counts.map fun e => Selection.countParam e.2)) := by
    simp [Selection.params_statement, Selection.placed]
  rw [List.singleton_append, ← hparams] at hcondition
  refine (Statement.render_eq (s.scoped_statement className)).trans ?_
  have htable : Param.textAt (s.statement className).params 1 = quoteName className := rfl
  rw [Selection.text_statement]
  have hcolumns : Template.fill (Param.textAt (s.statement className).params)
      (if s.columnTexts.isEmpty then ([.text "*"] : Template) else .join ", " s.columnTexts) =
      if s.columnTexts.isEmpty then "*" else ", ".intercalate (s.columnTexts.map
        (Template.fill (Param.textAt (s.statement className).params))) := by
    split
    · simp
    · exact Template.fill_join _ _
  simp [-List.isEmpty_iff, ← hcondition, hcolumns, htable, Selection.placed, String.append_assoc]

/-! ### What follows a condition -/

/-- What may follow the condition of a selection. -/
def tailKeywords : List String := [" ORDER BY ", " LIMIT ", " OFFSET "]

theorem starts_of_fill_listAfter (keyword : String) (items : List Template) (f : Nat → String) :
    (Selection.listAfter keyword items).fill f = "" ∨
      ∃ rest, (Selection.listAfter keyword items).fill f = keyword ++ rest := by
  cases items with
  | nil => exact .inl rfl
  | cons t rest =>
    refine .inr ⟨(Template.join ", " (t :: rest)).fill f, ?_⟩
    simp [Selection.listAfter]

theorem starts_of_fill_countParts (s : Selection) (n : Nat) (f : Nat → String) :
    (Selection.countParts n s.counts).fill f = "" ∨
      ∃ rest, (Selection.countParts n s.counts).fill f = " LIMIT " ++ rest := by
  unfold Selection.counts
  cases s.limit with
  | none =>
    cases s.skip with
    | none => exact .inl rfl
    | some skip => exact .inr ⟨_, by simp [Selection.countParts]; rfl⟩
  | some limit =>
    cases s.skip with
    | none => exact .inr ⟨_, by simp [Selection.countParts]; rfl⟩
    | some skip => exact .inr ⟨_, by simp [Selection.countParts]; rfl⟩

/-- An order comes first, then the row counts. -/
theorem starts_of_fill_tail (s : Selection) (n : Nat) (items : List Template) (f : Nat → String) :
    (Selection.listAfter " ORDER BY " items).fill f ++ (Selection.countParts n s.counts).fill f =
        "" ∨
      ∃ keyword ∈ tailKeywords, ∃ rest,
        (Selection.listAfter " ORDER BY " items).fill f ++
          (Selection.countParts n s.counts).fill f = keyword ++ rest := by
  rcases starts_of_fill_listAfter " ORDER BY " items f with horder | ⟨order, horder⟩
  · rw [horder, String.empty_append]
    rcases starts_of_fill_countParts s n f with hcounts | ⟨counts, hcounts⟩
    · exact .inl hcounts
    · exact .inr ⟨" LIMIT ", by simp [tailKeywords], counts, hcounts⟩
  · refine .inr ⟨" ORDER BY ", by simp [tailKeywords], ?_⟩
    rw [horder]
    exact ⟨_, String.append_assoc ..⟩

/-! ### One condition -/

/-- **Counting, deleting, updating and selecting share one condition.**  `W` is the condition of
the query, compiled and rendered by itself.  Each of the four commands is written with `W` behind
its `WHERE`, and counting and deleting fail if and only if the query does not compile. -/
theorem commands_share_condition (u : Update) (options : FindOptions) :
    (∀ fault, countCommand className schema q = .error fault ↔ q.compile schema 1 = .error fault) ∧
    (∀ fault, deleteCommand className schema q = .error fault ↔ q.compile schema 1 = .error fault) ∧
    (∀ c, countCommand className schema q = .ok c → ∃ W, q.conditionText schema = .ok W ∧
      c.render =
        .ok ("SELECT COUNT(*) AS `count` FROM " ++ quoteName className ++ " WHERE " ++ W)) ∧
    (∀ c, deleteCommand className schema q = .ok c → ∃ W, q.conditionText schema = .ok W ∧
      c.render = .ok ("DELETE FROM " ++ quoteName className ++ " WHERE " ++ W)) ∧
    (∀ c, updateCommand className schema q u = .ok c → ∃ W changes assignments,
      q.conditionText schema = .ok W ∧ u.changes schema = .ok changes ∧
      (SetClause.ofChanges changes).texts = .ok assignments ∧
      c.render =
        .ok ("UPDATE " ++ quoteName className ++ " SET " ++ ", ".intercalate assignments ++
          " WHERE " ++ W)) ∧
    (∀ c, selectCommand className schema q options = .ok c → ∃ W columns tail,
      q.conditionText schema = .ok W ∧
      c.render =
        .ok ("SELECT " ++ columns ++ " FROM " ++ quoteName className ++ " WHERE " ++ W ++ tail) ∧
      (tail = "" ∨ ∃ keyword ∈ tailKeywords, ∃ rest, tail = keyword ++ rest)) := by
  refine ⟨fun fault => ?_, fun fault => ?_, fun c hc => ?_, fun c hc => ?_, fun c hc => ?_,
    fun c hc => ?_⟩
  · rw [compile_eq_error]
    exact Result.map_eq_error
  · rw [compile_eq_error]
    exact Result.map_eq_error
  · obtain ⟨f, hf, rfl⟩ := countCommand_eq_ok.1 hc
    exact ⟨_, conditionText_eq hf, render_count className f⟩
  · obtain ⟨f, hf, rfl⟩ := deleteCommand_eq_ok.1 hc
    exact ⟨_, conditionText_eq hf, render_delete className f⟩
  · obtain ⟨changes, f, hchanges, hf, rfl⟩ := updateCommand_eq_ok.1 hc
    exact ⟨_, changes, _, conditionText_eq hf, hchanges, SetClause.texts_ofChanges changes,
      render_update className changes f⟩
  · obtain ⟨s, hs, rfl⟩ := selectCommand_eq_ok.1 hc
    exact ⟨_, _, _, conditionText_eq (filter_of_select hs), render_select className s,
      starts_of_fill_tail s s.firstCount s.orderTexts _⟩

end Query

end DocStore
