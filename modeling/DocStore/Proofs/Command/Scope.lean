import DocStore.Command.Basic
import DocStore.Proofs.Update.Scope

/-!
# Placeholders of commands

Every statement that is written here numbers its own parameters and no others
(`Command.scoped_toStatement`), whatever names, filters, changes and rows it is made for.  So it
always renders: no placeholder is without a parameter (`Command.render_eq`).
-/

namespace DocStore

open Sql

variable {lo hi n : Nat}

/-! ### Definitions of tables -/

theorem Column.within_definitions {columns : List Column} (hlo : lo ≤ n)
    (hhi : n + columns.length ≤ hi) : ∀ t ∈ definitions n columns, t.Within lo hi := by
  induction columns generalizing n with
  | nil => simp [definitions]
  | cons c rest ih =>
    rw [List.length_cons] at hhi
    intro t ht
    rcases List.mem_cons.1 ht with rfl | ht
    · unfold definition
      cases c.modifier with
      | none => simp; omega
      | some modifier => simp; omega
    · exact ih (by omega) (by omega) t ht

namespace Sql.Statement

theorem scoped_createTable (table : String) (columns : List Column) :
    (createTable table columns).Scoped := by
  have hlength : (createTable table columns).params.length = columns.length + 2 := by
    simp [createTable]
  have hparts : ∀ t ∈ Column.definitions 2 columns ++
      [sql ["PRIMARY KEY (", .slot (2 + columns.length), ")"]],
      t.Within 1 ((createTable table columns).params.length + 1) := by
    intro t ht
    rcases List.mem_append.1 ht with ht | ht
    · exact Column.within_definitions (by omega) (by omega) t ht
    · obtain rfl := List.mem_singleton.1 ht
      simp
      omega
  rw [hlength] at hparts
  simp [Scoped, createTable, Template.within_join _ hparts]

theorem scoped_createJoinTable (table : String) : (createJoinTable table).Scoped := by
  simp [Scoped, createJoinTable]

theorem scoped_addColumn (table field : String) (type : FieldType) :
    (addColumn table field type).Scoped := by
  simp [Scoped, addColumn]

theorem scoped_dropColumns (table : String) (columns : List String) :
    (dropColumns table columns).Scoped := by
  have hparts : ∀ t ∈ (slotsFrom 2 columns.length).map fun column => sql ["DROP COLUMN ", column],
      t.Within 1 (columns.length + 1 + 1) := by
    intro t ht
    obtain ⟨u, hu, rfl⟩ := List.mem_map.1 ht
    have hslot : u.Within 1 (columns.length + 1 + 1) :=
      Test.within_slotsFrom (by omega) (by omega) u hu
    simp [hslot]
  simp [Scoped, dropColumns, Template.within_join _ hparts]

theorem scoped_dropTable (table : String) : (dropTable table).Scoped := by
  simp [Scoped, dropTable]

theorem scoped_addIndex (table before name behind : String) (fields : List String) :
    (addIndex table before name behind fields).Scoped := by
  have hslots : ∀ t ∈ slotsFrom 3 fields.length, t.Within 1 (fields.length + 1 + 1 + 1) :=
    Test.within_slotsFrom (by omega) (by omega)
  simp [Scoped, addIndex, Template.within_join _ hslots]

theorem scoped_findTable (name : String) : (findTable name).Scoped := by
  simp [Scoped, findTable]

/-! ### The registry -/

theorem scoped_createRegistry (registry : String) : (createRegistry registry).Scoped := by
  simp [Scoped, createRegistry]

theorem scoped_register (registry className : String) (schema : Json) :
    (register registry className schema).Scoped := by
  simp [Scoped, register]

theorem scoped_selectField (registry className field : String) :
    (selectField registry className field).Scoped := by
  simp [Scoped, selectField]

theorem scoped_registerField (registry className field : String) (type : FieldType) :
    (registerField registry className field type).Scoped := by
  simp [Scoped, registerField]

theorem scoped_setMember (registry className member : String) (value : Json) :
    (setMember registry className member value).Scoped := by
  simp [Scoped, setMember]

theorem scoped_unregister (registry className : String) :
    (unregister registry className).Scoped := by
  simp [Scoped, unregister]

theorem scoped_selectClasses (registry : String) (only : Option String) :
    (selectClasses registry only).Scoped := by
  cases only <;> simp [Scoped, selectClasses]

/-! ### Batches -/

theorem within_batchFrom {statements : List Statement} (h : ∀ s ∈ statements, s.Scoped) (k : Nat) :
    (batchFrom k statements).text.Within (1 + k)
      ((batchFrom k statements).params.length + 1 + k) := by
  induction statements generalizing k with
  | nil => simp [batchFrom]
  | cons s rest ih =>
    have hs : s.Scoped := h s List.mem_cons_self
    have hrest := ih (fun u hu => h u (List.mem_cons_of_mem _ hu)) (k + s.params.length)
    have hlength : (batchFrom k (s :: rest)).params.length =
        s.params.length + (batchFrom (k + s.params.length) rest).params.length := List.length_append
    have htext : (batchFrom k (s :: rest)).text =
        s.text.shift k ++ .text ";" :: (batchFrom (k + s.params.length) rest).text := rfl
    rw [htext, Template.within_append, Template.within_cons, hlength]
    exact ⟨(hs.shift k).mono (by omega) (by omega), trivial,
      hrest.mono (by omega) (by omega)⟩

theorem scoped_batch {statements : List Statement} (h : ∀ s ∈ statements, s.Scoped) :
    (batch statements).Scoped :=
  within_batchFrom h 0

/-- The texts of the statements of a batch stand one behind the other, each with a semicolon. -/
theorem fill_batchFrom {statements : List Statement} (h : ∀ s ∈ statements, s.Scoped)
    (front : List Param) :
    (batchFrom front.length statements).text.fill
        (Param.textAt (front ++ (batchFrom front.length statements).params)) =
      String.join (statements.map fun s => s.text.fill (Param.textAt s.params) ++ ";") := by
  induction statements generalizing front with
  | nil => rfl
  | cons s rest ih =>
    have hs : s.Scoped := h s List.mem_cons_self
    have hrest := ih (fun u hu => h u (List.mem_cons_of_mem _ hu)) (front ++ s.params)
    rw [List.length_append, List.append_assoc] at hrest
    have hfirst := Template.fill_placed hs front
      (batchFrom (front.length + s.params.length) rest).params
    simp only [batchFrom, Template.fill_append, Template.fill_cons, Piece.fill_text, hfirst, hrest,
      List.map_cons, String.join_cons, String.append_assoc]

/-- **The text of a batch** is the texts of its statements, each with a semicolon. -/
theorem render_batch {statements : List Statement} (h : ∀ s ∈ statements, s.Scoped) :
    (batch statements).render =
      .ok (String.join (statements.map fun s => s.text.fill (Param.textAt s.params) ++ ";")) := by
  rw [render_eq (scoped_batch h)]
  exact congrArg _ (fill_batchFrom h [])

theorem scoped_dropClass (registry className : String) : (dropClass registry className).Scoped := by
  refine scoped_batch fun s hs => ?_
  rcases List.mem_cons.1 hs with rfl | hs
  · exact scoped_dropTable className
  · obtain rfl := List.mem_singleton.1 hs
    exact scoped_unregister registry className

theorem scoped_dropTables (tables : List String) : (dropTables tables).Scoped := by
  refine scoped_batch fun s hs => ?_
  obtain ⟨table, -, rfl⟩ := List.mem_map.1 hs
  exact scoped_dropTable table

theorem render_dropTables (tables : List String) :
    (dropTables tables).render =
      .ok (String.join (tables.map fun table =>
        "DROP TABLE IF EXISTS " ++ quoteName table ++ ";")) := by
  have hscoped : ∀ s ∈ tables.map dropTable, s.Scoped := by
    intro s hs
    obtain ⟨table, -, rfl⟩ := List.mem_map.1 hs
    exact scoped_dropTable table
  have htext : ∀ table, (dropTable table).text.fill (Param.textAt (dropTable table).params) =
      "DROP TABLE IF EXISTS " ++ quoteName table := by
    intro table
    simp [dropTable, Param.render]
  simp only [dropTables, render_batch hscoped, List.map_map, Function.comp_def, htext]

/-! ### Rows -/

theorem within_filter (filter : Filter) :
    (filter.whereClause.shift 1).condition.Within 1 (filter.whereClause.params.length + 1 + 1) :=
  (filter.scoped_whereClause.condition_shift 1).mono (by omega) (Nat.le_refl _)

theorem scoped_countRows (table : String) (filter : Filter) : (countRows table filter).Scoped := by
  simpa [Scoped, countRows] using within_filter filter

theorem scoped_deleteRows (table : String) (filter : Filter) :
    (deleteRows table filter).Scoped := by
  simpa [Scoped, deleteRows] using within_filter filter

theorem scoped_updateRows (table : String) (changes : List Change) (filter : Filter) :
    (updateRows table changes filter).Scoped := by
  have hlength : (updateRows table changes filter).params.length =
      1 + (SetClause.ofChanges changes).params.length + filter.whereClause.params.length := by
    simp [updateRows]
    omega
  have hset : ∀ t ∈ ((SetClause.ofChanges changes).shift 1).assignments,
      t.Within 1 ((updateRows table changes filter).params.length + 1) := by
    intro t ht
    obtain ⟨u, hu, rfl⟩ := List.mem_map.1 ht
    exact ((SetClause.scoped_ofChanges changes u hu).shift 1).mono (by omega) (by omega)
  -- the condition stands behind the table and the assignments
  have hw : (filter.whereClause.shift
      (1 + (SetClause.ofChanges changes).params.length)).condition.Within 1
      ((updateRows table changes filter).params.length + 1) :=
    (filter.scoped_whereClause.condition_shift _).mono (by omega) (by omega)
  have htext : (updateRows table changes filter).text =
      sql ["UPDATE ", .slot 1, " SET ",
        .join ", " ((SetClause.ofChanges changes).shift 1).assignments, " WHERE ",
        (filter.whereClause.shift (1 + (SetClause.ofChanges changes).params.length)).condition] :=
    rfl
  rw [Scoped, htext]
  simp [Template.within_join _ hset, hw]
  omega

end Sql.Statement

/-! ### Selections -/

theorem OrderItem.within_texts {score : Template} (hscore : score.Within lo hi)
    {items : List OrderItem} (hlo : lo ≤ n) (hhi : n + (items.flatMap params).length ≤ hi) :
    ∀ t ∈ texts score n items, t.Within lo hi := by
  induction items generalizing n with
  | nil => simp [texts]
  | cons item rest ih =>
    rw [List.flatMap_cons, List.length_append] at hhi
    intro t ht
    rcases List.mem_cons.1 ht with rfl | ht
    · cases item with
      | target place direction =>
        have hplace : place.params.length ≤ hi - n := by simp only [params] at hhi; omega
        simp [text, place.within_text hlo (by omega : n + place.params.length ≤ hi)]
      | score => simp [text, hscore]
    · exact ih (by omega) (by omega) t ht

namespace Selection

theorem within_listAfter {keyword : String} {items : List Template}
    (h : ∀ t ∈ items, t.Within lo hi) : (listAfter keyword items).Within lo hi := by
  cases items with
  | nil => simp [listAfter]
  | cons t rest => simp [listAfter, Template.within_join _ h]

theorem within_countParts {counts : List (String × Nat)} (hlo : lo ≤ n)
    (hhi : n + counts.length ≤ hi) : (countParts n counts).Within lo hi := by
  induction counts generalizing n with
  | nil => simp [countParts]
  | cons e rest ih =>
    rw [List.length_cons] at hhi
    simp [countParts, ih (by omega : lo ≤ n + 1) (by omega : n + 1 + rest.length ≤ hi)]
    omega

/-! The parts of a selection's statement, and the numbers of their first parameters. -/

variable (s : Selection)

/-- The condition, behind the table. -/
def placed : WhereClause := s.filter.whereClause.shift 1

/-- The relevance, if it is read. -/
def scoreRead : Option Template := if s.score then s.placed.score else none

/-- The order that the caller wishes, if the filter has none of its own. -/
def wished : List OrderItem := if s.placed.sorts.isEmpty then s.order else []

/-- The number of the first column. -/
def firstColumn : Nat := 2 + s.placed.params.length

/-- The number of the name of the relevance. -/
def scoreNumber : Nat := s.firstColumn + s.columns.length

/-- The number of the first parameter of the order. -/
def firstOrder : Nat := s.scoreNumber + s.scoreRead.toList.length

/-- The number of the first row count. -/
def firstCount : Nat := s.firstOrder + (s.wished.flatMap OrderItem.params).length

/-- The number behind all parameters. -/
def behind : Nat := s.firstCount + s.counts.length

/-- What is read of a row; everything if there is nothing here. -/
def columnTexts : List Template :=
  slotsFrom s.firstColumn s.columns.length ++ scoreColumn s.scoreRead s.scoreNumber

/-- The items of the order. -/
def orderTexts : List Template :=
  s.placed.sorts ++ OrderItem.texts (s.placed.score.getD []) s.firstOrder s.wished

theorem text_statement (table : String) :
    (s.statement table).text =
      sql ["SELECT ", if s.columnTexts.isEmpty then "*" else .join ", " s.columnTexts, " FROM ",
        .slot 1, " WHERE ", s.placed.condition, listAfter " ORDER BY " s.orderTexts,
        countParts s.firstCount s.counts] := rfl

theorem params_statement (table : String) :
    (s.statement table).params =
      .ident table :: s.placed.params ++ s.columns.map .ident ++
        s.scoreRead.toList.map (fun _ => .ident "score") ++ s.wished.flatMap OrderItem.params ++
        s.counts.map fun e => countParam e.2 := rfl

theorem length_params_statement (table : String) :
    (s.statement table).params.length + 1 = s.behind := by
  simp only [params_statement, List.length_append, List.length_map, List.length_cons, behind,
    firstCount, firstOrder, scoreNumber, firstColumn]
  omega

theorem within_placed {t : Template} (h : t.Within 1 (s.placed.params.length + 1)) :
    (t.shift 1).Within 1 s.behind := by
  refine (h.shift 1).mono (by omega) ?_
  simp only [behind, firstCount, firstOrder, scoreNumber, firstColumn]
  omega

theorem within_placed_condition : s.placed.condition.Within 1 s.behind := by
  rw [placed, WhereClause.condition_shift]
  exact s.within_placed s.filter.scoped_whereClause.condition

theorem within_placed_sorts : ∀ t ∈ s.placed.sorts, t.Within 1 s.behind := by
  intro t ht
  obtain ⟨u, hu, rfl⟩ := List.mem_map.1 ht
  exact s.within_placed (s.filter.scoped_whereClause.sorts u hu)

theorem within_placed_score : ∀ t ∈ s.placed.score, t.Within 1 s.behind := by
  intro t ht
  obtain ⟨u, hu, rfl⟩ := Option.map_eq_some_iff.1 ht
  exact s.within_placed (s.filter.scoped_whereClause.score u hu)

theorem scoreRead_eq_some {t : Template} (h : s.scoreRead = some t) : s.placed.score = some t := by
  unfold scoreRead at h
  split at h
  · exact h
  · cases h

theorem within_columnTexts : ∀ t ∈ s.columnTexts, t.Within 1 s.behind := by
  intro t ht
  rcases List.mem_append.1 ht with ht | ht
  · refine Test.within_slotsFrom (n := s.firstColumn) ?_ ?_ t ht
    · unfold firstColumn
      omega
    · simp only [behind, firstCount, firstOrder, scoreNumber]
      omega
  · unfold scoreColumn at ht
    cases hscore : s.scoreRead with
    | none => simp [hscore] at ht
    | some r =>
      rw [hscore] at ht
      obtain rfl : t = _ := List.mem_singleton.1 ht
      -- the relevance is one more column, behind those asked for
      have hr := s.within_placed_score r (s.scoreRead_eq_some hscore)
      have hlength : s.scoreRead.toList.length = 1 := by rw [hscore]; rfl
      have hlo : 1 ≤ s.scoreNumber := by
        simp only [scoreNumber, firstColumn]
        omega
      have hhi : s.scoreNumber < s.behind := by
        simp only [behind, firstCount, firstOrder]
        omega
      simp [hr, hlo, hhi]

theorem within_orderTexts : ∀ t ∈ s.orderTexts, t.Within 1 s.behind := by
  intro t ht
  rcases List.mem_append.1 ht with ht | ht
  · exact s.within_placed_sorts t ht
  · have hscore : Template.Within 1 s.behind (s.placed.score.getD []) := by
      cases h : s.placed.score with
      | none => simp
      | some r => exact s.within_placed_score r h
    refine OrderItem.within_texts hscore ?_ ?_ t ht
    · simp only [firstOrder, scoreNumber, firstColumn]
      omega
    · simp only [behind, firstCount]
      omega

theorem scoped_statement (table : String) : (s.statement table).Scoped := by
  have hcolumns := Template.within_join ", " s.within_columnTexts
  have hcounts : (countParts s.firstCount s.counts).Within 1 s.behind := by
    refine within_countParts ?_ (Nat.le_refl _)
    simp only [firstCount, firstOrder, scoreNumber, firstColumn]
    omega
  have hbehind : 1 < s.behind := by
    rw [← s.length_params_statement table]
    simp [params_statement]
  rw [Statement.Scoped, length_params_statement, text_statement]
  simp [s.within_placed_condition, within_listAfter s.within_orderTexts, hcounts, hbehind]
  split
  · simp
  · exact hcolumns

end Selection

/-! ### Rows that are inserted -/

namespace EncodedRow

variable (row : EncodedRow)

/-- The columns in the order of an insertion. -/
def columns : List String := row.values.map (·.1) ++ row.points.map (·.1)

/-- The number of the first value. -/
def firstValue : Nat := 2 + row.columns.length

/-- The number of the first coordinate. -/
def firstPoint : Nat := row.firstValue + row.values.length

/-- The values in the order of an insertion. -/
def valueTexts : List Template :=
  slotsFrom row.firstValue row.values.length ++
    (List.range row.points.length).map fun i =>
      sql ["POINT(", .slot (row.firstPoint + 2 * i), ", ", .slot (row.firstPoint + 2 * i + 1), ")"]

theorem text_insertStatement (table : String) :
    (row.insertStatement table).text =
      sql ["INSERT INTO ", .slot 1, " (", .join ", " (slotsFrom 2 row.columns.length),
        ") VALUES (", .join ", " row.valueTexts, ")"] := rfl

theorem params_insertStatement (table : String) :
    (row.insertStatement table).params =
      .ident table :: row.columns.map .ident ++ row.values.map (·.2) ++
        row.points.flatMap fun e =>
          [.value (.ofFloat e.2.longitude), .value (.ofFloat e.2.latitude)] := rfl

theorem length_params_insertStatement (table : String) :
    (row.insertStatement table).params.length + 1 = row.firstPoint + 2 * row.points.length := by
  simp [params_insertStatement, firstPoint, firstValue, List.length_flatMap, List.map_const']
  omega

theorem scoped_insertStatement (table : String) : (row.insertStatement table).Scoped := by
  rw [Statement.Scoped, length_params_insertStatement, text_insertStatement]
  have hcolumns : ∀ t ∈ slotsFrom 2 row.columns.length,
      t.Within 1 (row.firstPoint + 2 * row.points.length) := by
    refine Test.within_slotsFrom (by omega) ?_
    simp only [firstPoint, firstValue]
    omega
  have hvalues : ∀ t ∈ row.valueTexts, t.Within 1 (row.firstPoint + 2 * row.points.length) := by
    intro t ht
    rcases List.mem_append.1 ht with ht | ht
    · refine Test.within_slotsFrom ?_ ?_ t ht
      · simp only [firstValue]
        omega
      · simp only [firstPoint]
        omega
    · obtain ⟨i, hi, rfl⟩ := List.mem_map.1 ht
      have := List.mem_range.1 hi
      simp only [firstPoint, firstValue]
      simp
      omega
  have htable : 1 < row.firstPoint + 2 * row.points.length := by
    simp only [firstPoint, firstValue]
    omega
  simp [Template.within_join _ hcolumns, Template.within_join _ hvalues, htable]

end EncodedRow

/-! ### All commands -/

namespace Command

/-- The command is written here, and not by the caller. -/
def IsOwn : Command → Prop
  | .statement _ => False
  | _ => True

/-- **Every statement that is written here numbers its own parameters.** -/
theorem scoped_toStatement {c : Command} (h : c.IsOwn) : c.toStatement.Scoped := by
  cases c with
  | createRegistry registry => exact Statement.scoped_createRegistry registry
  | register registry className schema => exact Statement.scoped_register registry className schema
  | selectField registry className field =>
    exact Statement.scoped_selectField registry className field
  | registerField registry className field type =>
    exact Statement.scoped_registerField registry className field type
  | setMember registry className member value =>
    exact Statement.scoped_setMember registry className member value
  | selectClasses registry only => exact Statement.scoped_selectClasses registry only
  | createTable table columns => exact Statement.scoped_createTable table columns
  | createJoinTable table => exact Statement.scoped_createJoinTable table
  | addColumn table field type => exact Statement.scoped_addColumn table field type
  | dropColumns table columns => exact Statement.scoped_dropColumns table columns
  | dropClass registry className => exact Statement.scoped_dropClass registry className
  | dropTables tables => exact Statement.scoped_dropTables tables
  | addUnique table fields => exact Statement.scoped_addIndex table _ _ _ fields
  | addFullText table fields => exact Statement.scoped_addIndex table _ _ _ fields
  | findTable name => exact Statement.scoped_findTable name
  | insert table row => exact row.scoped_insertStatement table
  | select table selection => exact selection.scoped_statement table
  | count table filter => exact Statement.scoped_countRows table filter
  | update table changes filter => exact Statement.scoped_updateRows table changes filter
  | delete table filter => exact Statement.scoped_deleteRows table filter
  | statement s => exact h.elim

theorem render_eq {c : Command} (h : c.IsOwn) :
    c.render = .ok (c.toStatement.text.fill (Param.textAt c.toStatement.params)) :=
  Statement.render_eq (scoped_toStatement h)

end Command

end DocStore
