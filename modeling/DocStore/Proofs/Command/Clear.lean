import DocStore.Proofs.Command.Scope
import DocStore.Proofs.Result
import DocStore.Proofs.Update.Clear

/-!
# Commands keep their parameters apart

No name, value or document changes how a statement is read.  Every statement that the store makes
is clear (`Command.clear_toStatement`), so its rendered text consists of the statement's own texts,
unchanged and in order, and of one token for each placeholder between them
(`Command.tokens_of_render`): a name or a string in quotes that holds exactly the parameter's
characters, a number, or one of `TRUE`, `FALSE` and `NULL`.
-/

namespace DocStore

open Sql

open Template (Clear)

variable {n : Nat}

namespace Sql.Statement

/-- The text keeps the parameters apart, and the parameters are tokens. -/
structure Clear (s : Statement) : Prop where
  text : Template.Clear true s.text
  params : Param.AllTokens s.params

end Sql.Statement

/-! ### Definitions of tables -/

theorem ColumnType.opens_sql (type : ColumnType) {free : Bool} (h : free = true) :
    opens free type.sql = true := by
  subst h
  cases type <;> decide

namespace Column

/-- The modifiers that columns of schemas have. -/
def modifiers : List String :=
  ["DEFAULT CURRENT_TIMESTAMP(6)", "DEFAULT CURRENT_TIMESTAMP(6) ON UPDATE CURRENT_TIMESTAMP(6)",
    "NULL"]

theorem modifier_ofField (name : String) (type : FieldType) :
    ∀ m ∈ (ofField name type).modifier, m ∈ modifiers := by
  intro m hm
  unfold ofField at hm
  dsimp only at hm
  split at hm
  · split at hm
    · cases hm
      simp [modifiers]
    · split at hm
      · cases hm
        simp [modifiers]
      · cases hm
        simp [modifiers]
  · cases hm

theorem modifier_of_mem_columns {schema : ClassSchema} {c : Column} (h : c ∈ schema.columns) :
    ∀ m ∈ c.modifier, m ∈ modifiers := by
  rcases List.mem_cons.1 h with rfl | h
  · exact modifier_ofField _ _
  · obtain ⟨e, -, rfl⟩ := List.mem_map.1 h
    exact modifier_ofField _ _

theorem opens_modifier {modifier : String} (h : modifier ∈ modifiers) :
    opens (leavesFree false " ") modifier = true := by
  simp only [modifiers, List.mem_cons, List.not_mem_nil, or_false] at h
  rcases h with rfl | rfl | rfl <;> decide +kernel

theorem clear_definition {c : Column} (h : ∀ m ∈ c.modifier, m ∈ modifiers) :
    Clear true (c.definition n) := by
  have hwhole : ∀ t, Clear false t → Clear true (sql [.slot n, " ", c.type.sql, t]) := fun t ht =>
    .slot rfl (.text rfl (.text (c.type.opens_sql rfl) (.apart ht .nil)))
  unfold definition
  cases hm : c.modifier with
  | none => exact hwhole [] trivial
  | some modifier =>
    have hopens := opens_modifier (h modifier hm)
    exact hwhole (sql [" ", modifier]) (.text rfl (.text hopens .nil))

theorem clear_definitions {columns : List Column}
    (h : ∀ c ∈ columns, ∀ m ∈ c.modifier, m ∈ modifiers) :
    ∀ t ∈ definitions n columns, Clear true t := by
  induction columns generalizing n with
  | nil => simp [definitions]
  | cons c rest ih =>
    intro t ht
    rcases List.mem_cons.1 ht with rfl | ht
    · exact clear_definition (h c List.mem_cons_self)
    · exact ih (fun d hd => h d (List.mem_cons_of_mem _ hd)) t ht

theorem opens_addedType (name : String) (type : FieldType) {free : Bool} (h : free = true) :
    opens free (addedType name type) = true := by
  unfold addedType
  split
  · subst h
    decide
  · exact ColumnType.opens_sql _ h

end Column

namespace Sql.Statement

theorem clear_createTable (table : String) (schema : ClassSchema) :
    (createTable table schema.columns).Clear where
  text := by
    refine .text rfl (.slot rfl (.text rfl (.part (.join rfl rfl fun t ht => ?_) rfl
      (.text rfl .nil))))
    rcases List.mem_append.1 ht with ht | ht
    · exact Column.clear_definitions (fun c hc => Column.modifier_of_mem_columns hc) t ht
    · obtain rfl := List.mem_singleton.1 ht
      exact .text rfl (.slot rfl (.text rfl .nil))
  params := by
    have hcolumns : Param.AllTokens (schema.columns.map fun c => .ident c.name) :=
      Param.allTokens_map (by simp) _
    simp [createTable, hcolumns]

theorem clear_createJoinTable (table : String) : (createJoinTable table).Clear where
  text := .text rfl (.slot rfl (.text rfl (.text rfl .nil)))
  params := by simp [createJoinTable]

theorem clear_addColumn (table field : String) (type : FieldType) :
    (addColumn table field type).Clear where
  text := .text rfl (.slot rfl (.text rfl (.slot rfl (.text rfl
    (.text (Column.opens_addedType field type rfl) .nil)))))
  params := by simp [addColumn]

theorem clear_dropColumns (table : String) (columns : List String) :
    (dropColumns table columns).Clear where
  text := by
    refine .text rfl (.slot rfl (.text rfl (.part (.join rfl rfl fun t ht => ?_) rfl .nil)))
    obtain ⟨u, hu, rfl⟩ := List.mem_map.1 ht
    exact .text rfl (.part (.slotsFrom rfl _ u hu) rfl .nil)
  params := by
    have hcolumns : Param.AllTokens (columns.map .ident) := Param.allTokens_map (by simp) _
    simp [dropColumns, hcolumns]

theorem clear_dropTable (table : String) : (dropTable table).Clear where
  text := .text rfl (.slot rfl .nil)
  params := by simp [dropTable]

theorem clear_addIndex (table name : String) (fields : List String) {before behind : String}
    (hbefore : opens (leavesFree false " ADD ") before = true ∧
      leavesFree (leavesFree false " ADD ") before = true)
    (hbehind : opens false behind = true ∧ opens (leavesFree false behind) " (" = true ∧
      leavesFree (leavesFree false behind) " (" = true) :
    (addIndex table before name behind fields).Clear where
  text := .text rfl (.slot rfl (.text rfl (.text hbefore.1 (.slot hbefore.2 (.text hbehind.1
    (.text hbehind.2.1 (.part (.join rfl rfl (.slotsFrom rfl _)) hbehind.2.2
    (.text rfl .nil))))))))
  params := by
    have hfields : Param.AllTokens (fields.map .ident) := Param.allTokens_map (by simp) _
    simp [addIndex, hfields]

theorem clear_addUnique (table : String) (fields : List String) : (addUnique table fields).Clear :=
  clear_addIndex table _ fields ⟨rfl, rfl⟩ ⟨rfl, rfl, rfl⟩

theorem clear_addFullText (table : String) (fields : List String) :
    (addFullText table fields).Clear :=
  clear_addIndex table _ fields ⟨rfl, rfl⟩ ⟨rfl, rfl, rfl⟩

theorem clear_findTable (name : String) : (findTable name).Clear where
  text := .text rfl (.text rfl (.slot rfl .nil))
  params := by simp [findTable]

/-! ### The registry -/

theorem clear_createRegistry (registry : String) : (createRegistry registry).Clear where
  text := .text rfl (.slot rfl (.text rfl (.text rfl .nil)))
  params := by simp [createRegistry]

theorem clear_register (registry className : String) (schema : Json) :
    (register registry className schema).Clear where
  text := .text rfl (.slot rfl (.text rfl (.slot rfl (.text rfl (.slot rfl (.text rfl .nil))))))
  params := by simp [register]

theorem clear_selectField (registry className field : String) :
    (selectField registry className field).Clear where
  text := .text rfl (.slot rfl (.text rfl (.slot rfl (.text rfl (.slot rfl .nil)))))
  params := by simp [selectField]

theorem clear_registerField (registry className field : String) (type : FieldType) :
    (registerField registry className field type).Clear where
  text := .text rfl (.slot rfl (.text rfl (.slot rfl (.text rfl (.slot rfl (.text rfl (.slot rfl
    (.text rfl (.slot rfl (.text rfl (.slot rfl .nil)))))))))))
  params := by simp [registerField]

theorem clear_setMember (registry className member : String) (value : Json) :
    (setMember registry className member value).Clear where
  text := .text rfl (.slot rfl (.text rfl (.slot rfl (.text rfl (.slot rfl (.text rfl
    (.slot rfl .nil)))))))
  params := by simp [setMember]

theorem clear_unregister (registry className : String) : (unregister registry className).Clear where
  text := .text rfl (.slot rfl (.text rfl (.slot rfl .nil)))
  params := by simp [unregister]

theorem clear_selectClasses (registry : String) (only : Option String) :
    (selectClasses registry only).Clear := by
  cases only with
  | none =>
    refine ⟨?_, by simp [selectClasses]⟩
    exact .text rfl (.slot rfl .nil)
  | some className =>
    refine ⟨?_, by simp [selectClasses]⟩
    exact .text rfl (.slot rfl (.text rfl (.slot rfl .nil)))

/-! ### Batches -/

theorem clear_batchFrom {statements : List Statement} (h : ∀ s ∈ statements, s.Clear) (k : Nat) :
    (batchFrom k statements).Clear := by
  induction statements generalizing k with
  | nil => exact ⟨trivial, by simp [batchFrom]⟩
  | cons s rest ih =>
    have hs := h s List.mem_cons_self
    have hrest := ih (fun u hu => h u (List.mem_cons_of_mem _ hu)) (k + s.params.length)
    -- behind the semicolon a statement may begin anew
    have hfree : leavesFree false ";" = true := by decide
    have hbehind : Template.Clear false
        (.text ";" :: (batchFrom (k + s.params.length) rest).text) := by
      refine Template.clear_text.2 ⟨by decide, ?_⟩
      rw [hfree]
      exact hrest.text
    exact ⟨(hs.text.shift k).append hbehind, Param.allTokens_append.2 ⟨hs.params, hrest.params⟩⟩

theorem clear_dropClass (registry className : String) : (dropClass registry className).Clear := by
  refine clear_batchFrom (fun s hs => ?_) 0
  rcases List.mem_cons.1 hs with rfl | hs
  · exact clear_dropTable className
  · obtain rfl := List.mem_singleton.1 hs
    exact clear_unregister registry className

theorem clear_dropTables (tables : List String) : (dropTables tables).Clear := by
  refine clear_batchFrom (fun s hs => ?_) 0
  obtain ⟨table, -, rfl⟩ := List.mem_map.1 hs
  exact clear_dropTable table

/-! ### Rows -/

theorem clear_countRows (table : String) (filter : Filter) : (countRows table filter).Clear := by
  have hw := filter.clear_whereClause.shift 1
  refine ⟨?_, by simpa [countRows] using hw.params⟩
  exact .text rfl (.slot rfl (.text rfl (.part hw.condition rfl .nil)))

theorem clear_deleteRows (table : String) (filter : Filter) : (deleteRows table filter).Clear := by
  have hw := filter.clear_whereClause.shift 1
  refine ⟨?_, by simpa [deleteRows] using hw.params⟩
  exact .text rfl (.slot rfl (.text rfl (.part hw.condition rfl .nil)))

theorem clear_updateRows (table : String) (changes : List Change) (filter : Filter) :
    (updateRows table changes filter).Clear := by
  have hset := (SetClause.clear_ofChanges changes).shift 1
  have hw := filter.clear_whereClause.shift (1 + (SetClause.ofChanges changes).params.length)
  refine ⟨?_, ?_⟩
  · exact .text rfl (.slot rfl (.text rfl (.part (.join rfl rfl hset.assignments) rfl (.text rfl
      (.part hw.condition rfl .nil)))))
  · simpa [updateRows] using ⟨hset.params, hw.params⟩

end Sql.Statement

/-! ### Selections -/

theorem OrderItem.clear_texts {score : Template} (hscore : Clear true score)
    (items : List OrderItem) : ∀ t ∈ texts score n items, Clear true t := by
  induction items generalizing n with
  | nil => simp [texts]
  | cons item rest ih =>
    intro t ht
    rcases List.mem_cons.1 ht with rfl | ht
    · cases item with
      | target place direction =>
        have hkeyword : opens (leavesFree false " ") direction.keyword = true := by
          cases direction <;> decide
        exact .part place.clear_text rfl (.text rfl (.text hkeyword .nil))
      | score => exact .part hscore rfl (.text rfl .nil)
    · exact ih t ht

namespace Selection

variable (s : Selection)

theorem clear_listAfter {keyword : String} (hopens : opens false keyword = true)
    (hfree : leavesFree false keyword = true) {items : List Template}
    (h : ∀ t ∈ items, Clear true t) : Clear false (listAfter keyword items) := by
  cases items with
  | nil => trivial
  | cons t rest => exact .text hopens (.part (.join rfl rfl h) hfree .nil)

theorem clear_countParts {counts : List (String × Nat)}
    (h : ∀ e ∈ counts, e.1 = " LIMIT " ∨ e.1 = " OFFSET ") : Clear false (countParts n counts) := by
  induction counts generalizing n with
  | nil => trivial
  | cons e rest ih =>
    obtain ⟨keyword, count⟩ := e
    have hkeyword : opens false keyword = true ∧ leavesFree false keyword = true := by
      have := h (keyword, count) List.mem_cons_self
      rcases this with rfl | rfl <;> decide
    have hrest := ih (fun e he => h e (List.mem_cons_of_mem _ he)) (n := n + 1)
    exact .text hkeyword.1 (.slot hkeyword.2 (.apart hrest .nil))

theorem keyword_of_mem_counts : ∀ e ∈ s.counts, e.1 = " LIMIT " ∨ e.1 = " OFFSET " := by
  intro e he
  unfold counts at he
  split at he
  · simp only [List.mem_cons, List.not_mem_nil, or_false] at he
    rcases he with rfl | rfl
    · exact .inl rfl
    · exact .inr rfl
  · obtain rfl := List.mem_singleton.1 he
    exact .inl rfl
  · simp only [List.mem_cons, List.not_mem_nil, or_false] at he
    rcases he with rfl | rfl
    · exact .inl rfl
    · exact .inr rfl
  · cases he

theorem clear_placed : s.placed.Clear := s.filter.clear_whereClause.shift 1

theorem clear_columnTexts : ∀ t ∈ s.columnTexts, Clear true t := by
  intro t ht
  rcases List.mem_append.1 ht with ht | ht
  · exact .slotsFrom rfl _ t ht
  · unfold scoreColumn at ht
    cases hscore : s.scoreRead with
    | none => simp [hscore] at ht
    | some r =>
      rw [hscore] at ht
      obtain rfl : t = _ := List.mem_singleton.1 ht
      have hr := s.clear_placed.score r (s.scoreRead_eq_some hscore)
      exact .part hr rfl (.text rfl (.slot rfl .nil))

theorem clear_orderTexts : ∀ t ∈ s.orderTexts, Clear true t := by
  intro t ht
  rcases List.mem_append.1 ht with ht | ht
  · exact s.clear_placed.sorts t ht
  · have hscore : Clear true (s.placed.score.getD []) := by
      cases h : s.placed.score with
      | none => trivial
      | some r => exact s.clear_placed.score r h
    exact OrderItem.clear_texts hscore s.wished t ht

theorem clear_statement (table : String) : (s.statement table).Clear where
  text := by
    have hcolumns : Clear true
        (if s.columnTexts.isEmpty then "*" else .join ", " s.columnTexts) := by
      split
      · exact ⟨by decide, trivial⟩
      · exact .join rfl rfl s.clear_columnTexts
    rw [text_statement]
    exact .text rfl (.part hcolumns rfl (.text rfl (.slot rfl (.text rfl
      (.part s.clear_placed.condition rfl (.apart (clear_listAfter rfl rfl s.clear_orderTexts)
      (.apart (clear_countParts s.keyword_of_mem_counts) .nil)))))))
  params := by
    have hcolumns : Param.AllTokens (s.columns.map .ident) := Param.allTokens_map (by simp) _
    have hscore : Param.AllTokens (s.scoreRead.toList.map fun _ => .ident "score") :=
      Param.allTokens_map (by simp) _
    have horder : Param.AllTokens (s.wished.flatMap OrderItem.params) := by
      refine Param.allTokens_flatMap fun item _ => ?_
      cases item with
      | target place direction => exact place.allTokens_params
      | score => simp [OrderItem.params]
    have hcounts : Param.AllTokens (s.counts.map fun e => countParam e.2) :=
      Param.allTokens_map (by simp [countParam]) _
    simp only [params_statement, Param.allTokens_append, Param.allTokens_cons]
    exact ⟨⟨⟨⟨⟨rfl, s.clear_placed.params⟩, hcolumns⟩, hscore⟩, horder⟩, hcounts⟩

end Selection

/-! ### Rows that are inserted -/

namespace EncodedRow

theorem isSome_kind?_of_encodeCell {now field : String} {type : FieldType} {data : Json} {p : Param}
    (h : encodeCell now field type data = .ok (.value p)) : p.kind?.isSome = true := by
  unfold encodeCell at h
  -- every branch that gives a value gives a string, a number or a document
  cases type with
  | relation target => cases h
  | geoPoint =>
    dsimp only at h
    split at h <;> cases h
  | date =>
    obtain ⟨param, hparam, hp⟩ := Result.map_eq_ok.1 h
    cases hp
    unfold encodeDate at hparam
    split at hparam
    · cases hparam
      rfl
    · obtain ⟨text, -, rfl⟩ := Result.map_eq_ok.1 hparam
      cases text <;> rfl
  | pointer target | file | string | boolean =>
    dsimp only at h
    split at h <;> cases h
    all_goals rfl
  | array | arrayOf contents | object =>
    dsimp only at h
    split at h <;> cases h
    all_goals rfl
  | bytes =>
    cases h
    rfl
  | number =>
    dsimp only at h
    split at h
    · cases h
      rfl
    · split at h
      · cases h
        rfl
      · cases h
    · cases h
      rfl
    · cases h

theorem allTokens_of_encodeFields {now : String} {storage : ClassSchema}
    {entries : List (String × Json)} {row : EncodedRow}
    (h : encodeFields now storage entries = .ok row) : Param.AllTokens (row.values.map (·.2)) := by
  induction entries generalizing row with
  | nil =>
    cases h
    exact Param.allTokens_nil
  | cons e rest ih =>
    obtain ⟨field, data⟩ := e
    rw [encodeFields] at h
    split at h
    · exact ih h
    · obtain ⟨type, -, h⟩ := Result.bind_eq_ok.1 h
      obtain ⟨cell, hcell, h⟩ := Result.bind_eq_ok.1 h
      obtain ⟨others, hothers, h⟩ := Result.bind_eq_ok.1 h
      cases cell with
      | skip =>
        cases h
        exact ih hothers
      | value p =>
        cases h
        exact Param.allTokens_cons.2 ⟨isSome_kind?_of_encodeCell hcell, ih hothers⟩
      | point p =>
        cases h
        have := ih hothers
        exact this

theorem clear_insertStatement (table : String) {row : EncodedRow}
    (h : Param.AllTokens (row.values.map (·.2))) : (row.insertStatement table).Clear where
  text := by
    have hvalues : ∀ t ∈ row.valueTexts, Clear true t := by
      intro t ht
      rcases List.mem_append.1 ht with ht | ht
      · exact .slotsFrom rfl _ t ht
      · obtain ⟨i, -, rfl⟩ := List.mem_map.1 ht
        exact .text rfl (.slot rfl (.text rfl (.slot rfl (.text rfl .nil))))
    rw [text_insertStatement]
    exact .text rfl (.slot rfl (.text rfl (.part (.join rfl rfl (.slotsFrom rfl _)) rfl
      (.text rfl (.part (.join rfl rfl hvalues) rfl (.text rfl .nil))))))
  params := by
    have hcolumns : Param.AllTokens (row.columns.map .ident) := Param.allTokens_map (by simp) _
    have hpoints : Param.AllTokens (row.points.flatMap fun e =>
        [.value (.ofFloat e.2.longitude), .value (.ofFloat e.2.latitude)]) :=
      Param.allTokens_flatMap fun e _ => by simp
    simp only [params_insertStatement, Param.allTokens_append, Param.allTokens_cons]
    exact ⟨⟨⟨rfl, hcolumns⟩, h⟩, hpoints⟩

end EncodedRow

/-! ### All commands -/

namespace Command

/-- The command is one that the store makes: its columns are those of a schema, and its row that of
a document. -/
def IsBuilt : Command → Prop
  | .statement _ => False
  | .createTable _ columns => ∃ schema : ClassSchema, columns = schema.columns
  | .insert _ row => ∃ now schema object, EncodedRow.ofObject now schema object = .ok row
  | _ => True

theorem IsBuilt.isOwn {c : Command} (h : c.IsBuilt) : c.IsOwn := by
  cases c with
  | statement s => exact h
  | _ => trivial

theorem clear_toStatement {c : Command} (h : c.IsBuilt) : c.toStatement.Clear := by
  cases c with
  | createRegistry registry => exact Statement.clear_createRegistry registry
  | register registry className schema => exact Statement.clear_register registry className schema
  | selectField registry className field =>
    exact Statement.clear_selectField registry className field
  | registerField registry className field type =>
    exact Statement.clear_registerField registry className field type
  | setMember registry className member value =>
    exact Statement.clear_setMember registry className member value
  | selectClasses registry only => exact Statement.clear_selectClasses registry only
  | createTable table columns =>
    obtain ⟨schema, rfl⟩ := h
    exact Statement.clear_createTable table schema
  | createJoinTable table => exact Statement.clear_createJoinTable table
  | addColumn table field type => exact Statement.clear_addColumn table field type
  | dropColumns table columns => exact Statement.clear_dropColumns table columns
  | dropClass registry className => exact Statement.clear_dropClass registry className
  | dropTables tables => exact Statement.clear_dropTables tables
  | addUnique table fields => exact Statement.clear_addUnique table fields
  | addFullText table fields => exact Statement.clear_addFullText table fields
  | findTable name => exact Statement.clear_findTable name
  | insert table row =>
    obtain ⟨now, schema, object, h⟩ := h
    obtain ⟨-, -, h⟩ := Result.bind_eq_ok.1 h
    exact EncodedRow.clear_insertStatement table (EncodedRow.allTokens_of_encodeFields h)
  | select table selection => exact selection.clear_statement table
  | count table filter => exact Statement.clear_countRows table filter
  | update table changes filter => exact Statement.clear_updateRows table changes filter
  | delete table filter => exact Statement.clear_deleteRows table filter
  | statement s => exact h.elim

/-- **No parameter is read as anything but one token.**  The rendered text of a command falls into
stretches, one for each text and each placeholder of its statement.  The stretch of a text is that
text, and the stretch of a placeholder is one token, which is the parameter's.  The tokens of the
whole are those of the stretches, so no stretch begins inside the quotes of another.  Reading the
statement from its text with numbered placeholders gives the same texts and placeholders. -/
theorem tokens_of_render {c : Command} (h : c.IsBuilt) :
    ∃ sql cuts, c.render = .ok sql ∧
      List.Forall₂ (Template.Reads c.toStatement.params) c.toStatement.text.merge cuts ∧
      sql = String.join (cuts.map Template.Cut.text) ∧
      tokens? sql = some (cuts.flatMap Template.Cut.tokens) ∧
      (c.toStatement.params.length < 2 ^ 64 →
        Template.scan c.toStatement.text.print = c.toStatement.text.merge) := by
  -- the whole text is what is read behind nothing
  have hclear := clear_toStatement h
  have hscoped := scoped_toStatement h.isOwn
  obtain ⟨cuts, hcuts, htext, htokens⟩ :=
    Template.reads_mergeFrom hclear.params hclear.text hscoped [] rfl fun _ => rfl
  simp only [List.reverse_nil, String.ofList_nil, String.empty_append, List.nil_append]
    at htext htokens
  exact ⟨_, cuts, render_eq h.isOwn, hcuts, htext.symm, htokens, fun hlength =>
    Template.scan_print hlength hclear.text hscoped⟩

/-- A deletion from a table, and by a value, that would both like to be read as SQL. -/
def hostile : Command :=
  .delete "T` WHERE $2 OR TRUE; --"
    [.tests ⟨"name", []⟩ [.scalar .equal (.str "x\\' OR '$1' = `T`")]]

theorem tokens_of_render_hostile :
    hostile.render =
      .ok ("DELETE FROM `T`` WHERE $2 OR TRUE; --` WHERE `name` = 'x\\\\'' OR ''$1'' = `T`'") ∧
    ∃ sql cuts, hostile.render = .ok sql ∧
      List.Forall₂ (Template.Reads hostile.toStatement.params) hostile.toStatement.text.merge cuts ∧
      sql = String.join (cuts.map Template.Cut.text) ∧
      tokens? sql = some (cuts.flatMap Template.Cut.tokens) ∧
      (hostile.toStatement.params.length < 2 ^ 64 →
        Template.scan hostile.toStatement.text.print = hostile.toStatement.text.merge) :=
  ⟨by decide, tokens_of_render (c := hostile) trivial⟩

end Command

end DocStore
