import DocStore.Proofs.Command.Items

/-!
# What commands drop

A text that drops columns says its table and one column after the other.  The engine drops all of
them or none: a column that is not there, or not any more, is refused (`ColumnRemoval.left?`).  So
a text that says a column twice drops nothing, and without that the columns that it does not say
are left (`ColumnRemoval.left?_eq_some_iff`).

The text of the command says the columns in the order in which it has them, and as often
(`Command.exists_render_dropColumns`).
-/

namespace DocStore

open Sql

/-- Columns that are dropped from a table. -/
structure ColumnRemoval where
  table : String
  columns : List String
  deriving DecidableEq

namespace ColumnRemoval

/-- The columns that tokens drop. -/
def columns? : List Token → Option (List String)
  | [⟨.word, "DROP"⟩, ⟨.word, "COLUMN"⟩, ⟨.name column, _⟩] => some [column]
  | ⟨.word, "DROP"⟩ :: ⟨.word, "COLUMN"⟩ :: ⟨.name column, _⟩ :: ⟨.mark, ","⟩ :: ts =>
    (columns? ts).map fun columns => column :: columns
  | _ => none

/-- What tokens drop. -/
def read? : List Token → Option ColumnRemoval
  | ⟨.word, "ALTER"⟩ :: ⟨.word, "TABLE"⟩ :: ⟨.name table, _⟩ :: ts =>
    (columns? ts).map fun columns => ⟨table, columns⟩
  | _ => none

/-- What a text drops. -/
def ofText? (text : String) : Option ColumnRemoval := (solidTokens? text).bind read?

/-- The columns that are left when columns are dropped in order; `none` if one is refused. -/
def left? (columns : List String) : List String → Option (List String)
  | [] => some columns
  | name :: rest =>
    if name ∈ columns then left? (columns.filter fun column => column ≠ name) rest else none

variable {columns names left : List String}

/-- **Columns are dropped if and only if they are there and no column is dropped twice.** -/
theorem left?_eq_some_iff : left? columns names = some left ↔
    names.Nodup ∧ names ⊆ columns ∧ left = columns.filter fun column => column ∉ names := by
  induction names generalizing columns with
  | nil => simp [left?, eq_comm]
  | cons name rest ih =>
    -- behind the first column the others are dropped from what it leaves
    have hrest : rest ⊆ (columns.filter fun column => column ≠ name) ↔
        rest ⊆ columns ∧ name ∉ rest := by
      simp only [List.subset_def, List.mem_filter, decide_eq_true_eq]
      constructor
      · intro h
        exact ⟨fun {c} hc => (h hc).1, fun hname => (h hname).2 rfl⟩
      · rintro ⟨h, hname⟩ c hc
        exact ⟨h hc, fun heq => hname (heq ▸ hc)⟩
    have hleft : (columns.filter fun column => column ≠ name).filter (fun column => column ∉ rest) =
        columns.filter fun column => column ∉ name :: rest := by
      rw [List.filter_filter]
      exact List.filter_congr fun c _ => by simp [Bool.and_comm]
    by_cases hname : name ∈ columns
    · rw [left?, if_pos hname, ih, hrest, hleft, List.nodup_cons, List.cons_subset]
      tauto
    · rw [left?, if_neg hname, List.cons_subset]
      exact ⟨nofun, fun h => absurd h.2.1.1 hname⟩

/-! ### Texts -/

/-- The tokens that drop a column. -/
def columnTokens (column : String) : List Token :=
  [⟨.word, "DROP"⟩, ⟨.word, "COLUMN"⟩, (Param.ident column).token]

theorem columns?_intercalate (hne : columns ≠ []) :
    columns? (List.intercalate [⟨.mark, ","⟩] (columns.map columnTokens)) = some columns := by
  induction columns with
  | nil => exact absurd rfl hne
  | cons column rest ih =>
    cases rest with
    | nil =>
      have hlast : List.intercalate [⟨.mark, ","⟩] ([column].map columnTokens) =
          columnTokens column := by simp [List.intercalate]
      rw [hlast]
      rfl
    | cons next rest =>
      rw [List.map_cons, List.map_cons, List.intercalate_cons_cons, ← List.map_cons]
      exact congrArg (Option.map _) (ih (List.cons_ne_nil _ _))

end ColumnRemoval

namespace Command

theorem tokens_dropColumns (table : String) (columns : List String) :
    (dropColumns table columns).tokens =
      ⟨.word, "ALTER"⟩ :: ⟨.word, "TABLE"⟩ :: (Param.ident table).token ::
        List.intercalate [⟨.mark, ","⟩] (columns.map ColumnRemoval.columnTokens) := by
  let g : Nat → Token := Param.tokenAt (dropColumns table columns).toStatement.params
  have halter : solid "ALTER TABLE " = [⟨.word, "ALTER"⟩, ⟨.word, "TABLE"⟩] := by decide +kernel
  have hdrop : solid "DROP COLUMN " = [⟨.word, "DROP"⟩, ⟨.word, "COLUMN"⟩] := by decide +kernel
  have hblank : solid " " = [] := by decide
  have htable : g 1 = (Param.ident table).token := rfl
  -- the columns stand behind the table
  have hslots : (slotsFrom 2 columns.length).map (Template.solidTokens g) = nameItems columns := by
    have hplaced := Template.map_solidTokens_slotsFrom [.ident table] (columns.map .ident) []
    rw [List.append_nil, List.length_map, List.map_map] at hplaced
    exact hplaced
  have hcolumns : ((slotsFrom 2 columns.length).map fun column =>
      sql ["DROP COLUMN ", column]).map (Template.solidTokens g) =
        columns.map ColumnRemoval.columnTokens := by
    calc _ = ((slotsFrom 2 columns.length).map (Template.solidTokens g)).map
          (solid "DROP COLUMN " ++ ·) := by simp [Function.comp_def]
      _ = columns.map ColumnRemoval.columnTokens := by
        rw [hslots, hdrop, nameItems, List.map_map]
        rfl
  have hstatement : (dropColumns table columns).tokens =
      (sql ["ALTER TABLE ", .slot 1, " ", .join ", " ((slotsFrom 2 columns.length).map fun column =>
        sql ["DROP COLUMN ", column])]).solidTokens g := rfl
  simp [hstatement, Template.solidTokens_commas, hcolumns, halter, hblank, Template.slot,
    Template.solidTokens, htable]

/-- **The text of the command drops the columns from the table.** -/
theorem exists_render_dropColumns {columns : List String} (hne : columns ≠ []) (table : String) :
    ∃ text, (dropColumns table columns).render = .ok text ∧
      ColumnRemoval.ofText? text = some ⟨table, columns⟩ := by
  obtain ⟨text, htext, htokens⟩ := solidTokens?_render (c := dropColumns table columns) trivial
  refine ⟨text, htext, ?_⟩
  rw [ColumnRemoval.ofText?, htokens, Option.bind_some, tokens_dropColumns]
  exact congrArg (Option.map _) (ColumnRemoval.columns?_intercalate hne)

end Command

end DocStore
