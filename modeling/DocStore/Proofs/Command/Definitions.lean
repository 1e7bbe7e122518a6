import DocStore.Proofs.Command.Items

/-!
# What commands define

A text that creates a table defines it with its columns, and a text that adds a column defines that
one.  A column is a name and a type; what stands behind the type, such as a default, and the key of
a table are no part of it.  `Definition.read?` reads this from the tokens of a text.

The commands that create the tables of a class define the columns of its schema and a table for
every relation, and the command that adds a field defines its column, or the table of the relation
(`Command.defines_createTable`, `Command.defines_createJoinTable`, `Command.defines_addColumn`).
-/

namespace DocStore

open Sql

/-- What a text defines: columns of a table, which may be new. -/
structure Definition where
  table : String
  isNew : Bool
  /-- The columns with the tokens of their types. -/
  columns : List (String × List Token)
  deriving DecidableEq

namespace Definition

/-- The words that begin what may stand behind a type. -/
def attributeWords : List Token := [⟨.word, "NULL"⟩, ⟨.word, "NOT"⟩, ⟨.word, "DEFAULT"⟩]

/-- The type in front of the attributes of a column. -/
def typeOf (ts : List Token) : List Token := ts.takeWhile fun t => !attributeWords.contains t

/-- The column that tokens define, if they begin with a name. -/
def column? : List Token → Option (String × List Token)
  | ⟨.name column, _⟩ :: ts => some (column, typeOf ts)
  | _ => none

/-- What tokens define. -/
def read? : List Token → Option Definition
  | ⟨.word, "CREATE"⟩ :: ⟨.word, "TABLE"⟩ :: ⟨.word, "IF"⟩ :: ⟨.word, "NOT"⟩ :: ⟨.word, "EXISTS"⟩ ::
      ⟨.name table, _⟩ :: ts =>
    (items? ts).map fun r => ⟨table, true, r.1.filterMap column?⟩
  | ⟨.word, "ALTER"⟩ :: ⟨.word, "TABLE"⟩ :: ⟨.name table, _⟩ :: ⟨.word, "ADD"⟩ ::
      ⟨.word, "COLUMN"⟩ :: ts =>
    (column? ts).map fun c => ⟨table, false, [c]⟩
  | _ => none

/-- What a text defines. -/
def ofText? (text : String) : Option Definition := (solidTokens? text).bind read?

example : ofText? "ALTER TABLE `Meetup` ADD COLUMN `start` TIMESTAMP(6) NULL DEFAULT NULL" =
    some ⟨"Meetup", false, [("start", [⟨.word, "TIMESTAMP"⟩, ⟨.mark, "("⟩, ⟨.number, "6"⟩,
      ⟨.mark, ")"⟩])]⟩ := by
  decide +kernel

/-- The columns that are defined, each with its table. -/
def cells (definitions : List Definition) : List (String × String × List Token) :=
  definitions.flatMap fun d => d.columns.map fun c => (d.table, c)

/-- The tables that are defined as new. -/
def tables (definitions : List Definition) : List String :=
  (definitions.filter fun d => d.isNew).map fun d => d.table

end Definition

namespace Command

/-- The text of a command defines something. -/
def Defines (c : Command) (d : Definition) : Prop :=
  ∃ text, c.render = .ok text ∧ Definition.ofText? text = some d

theorem defines_of_tokens {c : Command} {d : Definition} (h : c.IsBuilt)
    (hd : Definition.read? c.tokens = some d) : c.Defines d := by
  obtain ⟨text, htext, htokens⟩ := solidTokens?_render h
  exact ⟨text, htext, by rw [Definition.ofText?, htokens, Option.bind_some, hd]⟩

end Command

/-! ### Columns of schemas -/

namespace ColumnType

/-- The tokens of a type. -/
def tokens (type : ColumnType) : List Token := solid type.sql

theorem isItem_tokens (type : ColumnType) : IsItem type.tokens := by
  cases type <;> decide +kernel

/-- No attribute begins in a type. -/
theorem typeOf_append (type : ColumnType) (attributes : List Token) :
    Definition.typeOf (type.tokens ++ attributes) =
      type.tokens ++ Definition.typeOf attributes := by
  refine List.takeWhile_append_of_pos ?_
  cases type <;> decide +kernel

end ColumnType

namespace Column

/-- The tokens behind the type. -/
def attributes (c : Column) : List Token := (c.modifier.map solid).getD []

/-- The tokens of the definition of a column. -/
def tokens (c : Column) : List Token :=
  (Param.ident c.name).token :: (c.type.tokens ++ c.attributes)

variable {c : Column} {columns : List Column}

theorem isItem_tokens (h : ∀ m ∈ c.modifier, m ∈ modifiers) : IsItem c.tokens := by
  have hattributes : IsItem c.attributes := by
    unfold attributes
    cases hm : c.modifier with
    | none => rfl
    | some m =>
      have hmodifier := h m hm
      simp only [modifiers, List.mem_cons, List.not_mem_nil, or_false] at hmodifier
      rcases hmodifier with rfl | rfl | rfl <;> decide +kernel
  exact .cons (Param.kind_token_ne _) (c.type.isItem_tokens.append hattributes)

/-- A column is defined with its name and its type. -/
theorem column?_tokens (h : ∀ m ∈ c.modifier, m ∈ modifiers) :
    Definition.column? c.tokens = some (c.name, c.type.tokens) := by
  have hattributes : Definition.typeOf c.attributes = [] := by
    unfold attributes
    cases hm : c.modifier with
    | none => rfl
    | some m =>
      have hmodifier := h m hm
      simp only [modifiers, List.mem_cons, List.not_mem_nil, or_false] at hmodifier
      rcases hmodifier with rfl | rfl | rfl <;> decide +kernel
  have htype := c.type.typeOf_append c.attributes
  rw [hattributes, List.append_nil] at htype
  exact congrArg (fun type => some (c.name, type)) htype

/-- The definitions of columns whose names stand behind other parameters. -/
theorem map_solidTokens_definitions (front : List Param) (columns : List Column)
    (back : List Param) :
    (definitions (front.length + 1) columns).map
      (Template.solidTokens (Param.tokenAt
        (front ++ (columns.map (fun c => .ident c.name) ++ back)))) =
      columns.map tokens := by
  induction columns generalizing front with
  | nil => rfl
  | cons c rest ih =>
    have hblank : solid " " = [] := by decide
    -- behind the name of this column stand those of the others
    have hname : Param.tokenAt (front ++ (.ident c.name ::
        (rest.map (fun c => .ident c.name) ++ back))) (front.length + 1) =
          (Param.ident c.name).token := by
      simp [Param.tokenAt]
    have hrest := ih (front ++ [.ident c.name])
    rw [List.length_append, List.length_singleton, List.append_assoc,
      List.singleton_append] at hrest
    rw [definitions, List.map_cons, List.map_cons, List.map_cons, List.cons_append, hrest]
    refine congrArg (· :: rest.map tokens) ?_
    unfold definition tokens attributes ColumnType.tokens
    cases c.modifier with
    | none => simp [Template.slot, Template.solidTokens, hname, hblank]
    | some m => simp [Template.slot, Template.solidTokens, hname, hblank]

end Column

namespace Command

open Definition (column?)

/-- The type of the columns of a join table. -/
def joinType : List Token := ColumnType.keyString.tokens

/-- What the table of a relation is defined as. -/
def joinDefinition (table : String) : Definition :=
  ⟨table, true, [("relatedId", joinType), ("owningId", joinType)]⟩

/-- What the column of a field is defined as. -/
def columnDefinition (table field : String) (type : FieldType) : Definition :=
  ⟨table, false, [(field, (ColumnType.ofField field type).tokens)]⟩

theorem defines_createJoinTable (table : String) :
    (createJoinTable table).Defines (joinDefinition table) :=
  defines_of_tokens trivial rfl

/-- The key of a class table, which stands behind its columns. -/
def keyItem : List Token :=
  [⟨.word, "PRIMARY"⟩, ⟨.word, "KEY"⟩, ⟨.mark, "("⟩, (Param.ident "objectId").token, ⟨.mark, ")"⟩]

theorem tokens_createTable (table : String) (columns : List Column) :
    (createTable table columns).tokens =
      ⟨.word, "CREATE"⟩ :: ⟨.word, "TABLE"⟩ :: ⟨.word, "IF"⟩ :: ⟨.word, "NOT"⟩ ::
        ⟨.word, "EXISTS"⟩ :: (Param.ident table).token ::
        listTokens (columns.map Column.tokens ++ [keyItem]) := by
  let g : Nat → Token := Param.tokenAt (createTable table columns).toStatement.params
  have hcreate : solid "CREATE TABLE IF NOT EXISTS " = [⟨.word, "CREATE"⟩, ⟨.word, "TABLE"⟩,
    ⟨.word, "IF"⟩, ⟨.word, "NOT"⟩, ⟨.word, "EXISTS"⟩] := by decide +kernel
  have hopen : solid " (" = [⟨.mark, "("⟩] := by decide
  have hclose : solid ")" = [⟨.mark, ")"⟩] := by decide
  have hprimary : solid "PRIMARY KEY (" = [⟨.word, "PRIMARY"⟩, ⟨.word, "KEY"⟩, ⟨.mark, "("⟩] := by
    decide +kernel
  have htable : g 1 = (Param.ident table).token := rfl
  have hkey : g (2 + columns.length) = (Param.ident "objectId").token := by
    have hbehind : 2 + columns.length - 1 = columns.length + 1 := by omega
    simp [g, toStatement, Statement.createTable, Param.tokenAt, hbehind]
  have hcolumns : (Column.definitions 2 columns).map (Template.solidTokens g) =
      columns.map Column.tokens :=
    Column.map_solidTokens_definitions [.ident table] columns [.ident "objectId"]
  have hstatement : (createTable table columns).tokens =
      (sql ["CREATE TABLE IF NOT EXISTS ", .slot 1, " (",
        .join ", " (Column.definitions 2 columns ++
          [sql ["PRIMARY KEY (", .slot (2 + columns.length), ")"]]), ")"]).solidTokens g := rfl
  simp [hstatement, Template.solidTokens_commas, hcolumns, hcreate, hopen, hclose, hprimary,
    Template.slot, Template.solidTokens, htable, hkey, keyItem, listTokens]

/-- **A class table is defined with the columns of its schema.** -/
theorem defines_createTable (table : String) (schema : ClassSchema) :
    (createTable table schema.columns).Defines
      ⟨table, true, schema.columns.map fun c => (c.name, c.type.tokens)⟩ := by
  have hmodifiers : ∀ c ∈ schema.columns, ∀ m ∈ c.modifier, m ∈ Column.modifiers :=
    fun c hc => Column.modifier_of_mem_columns hc
  have hitems : ∀ item ∈ schema.columns.map Column.tokens ++ [keyItem], IsItem item := by
    intro item hitem
    rcases List.mem_append.1 hitem with hitem | hitem
    · obtain ⟨c, hc, rfl⟩ := List.mem_map.1 hitem
      exact Column.isItem_tokens (hmodifiers c hc)
    · obtain rfl := List.mem_singleton.1 hitem
      decide +kernel
  have hdefined : (schema.columns.map Column.tokens ++ [keyItem]).filterMap column? =
      schema.columns.map fun c => (c.name, c.type.tokens) := by
    have hkey : [keyItem].filterMap column? = [] := rfl
    have hcolumns : schema.columns.filterMap (column? ∘ Column.tokens) =
        schema.columns.filterMap (some ∘ fun c => (c.name, c.type.tokens)) :=
      List.filterMap_congr fun c hc => Column.column?_tokens (hmodifiers c hc)
    rw [List.filterMap_append, List.filterMap_map, hcolumns, hkey, List.append_nil,
      List.filterMap_eq_map]
  have hfilled : [] ∉ schema.columns.map Column.tokens ++ [keyItem] := by
    simp [Column.tokens, keyItem]
  have hread := items?_listTokens hitems hfilled []
  rw [List.append_nil] at hread
  refine defines_of_tokens ⟨schema, rfl⟩ ?_
  rw [tokens_createTable]
  exact (congrArg (Option.map _) hread).trans (by rw [Option.map_some, hdefined])

/-- A column is added with the type that it has in a new table. -/
theorem typeOf_addedType (field : String) (type : FieldType) :
    Definition.typeOf (solid (Column.addedType field type)) =
      (ColumnType.ofField field type).tokens := by
  unfold Column.addedType
  split
  · next hdate =>
    subst hdate
    have htimestamp : Definition.typeOf (solid "TIMESTAMP(6) NULL DEFAULT NULL") =
        ColumnType.timestamp.tokens := by decide +kernel
    exact htimestamp
  · have htype := (ColumnType.ofField field type).typeOf_append []
    rwa [List.append_nil, show Definition.typeOf [] = [] from rfl, List.append_nil] at htype

theorem defines_addColumn (table field : String) (type : FieldType) :
    (addColumn table field type).Defines (columnDefinition table field type) := by
  have htokens : (addColumn table field type).tokens =
      ⟨.word, "ALTER"⟩ :: ⟨.word, "TABLE"⟩ :: (Param.ident table).token :: ⟨.word, "ADD"⟩ ::
        ⟨.word, "COLUMN"⟩ :: (Param.ident field).token :: solid (Column.addedType field type) := by
    have halter : solid "ALTER TABLE " = [⟨.word, "ALTER"⟩, ⟨.word, "TABLE"⟩] := by decide +kernel
    have hadd : solid " ADD COLUMN " = [⟨.word, "ADD"⟩, ⟨.word, "COLUMN"⟩] := by decide +kernel
    have hblank : solid " " = [] := by decide
    have hstatement : (addColumn table field type).tokens =
        (sql ["ALTER TABLE ", .slot 1, " ADD COLUMN ", .slot 2, " ",
          Column.addedType field type]).solidTokens
            (Param.tokenAt [.ident table, .ident field]) := rfl
    simp [hstatement, halter, hadd, hblank, Template.slot, Template.solidTokens, Param.tokenAt]
  refine defines_of_tokens trivial ?_
  rw [htokens]
  have hcolumn := typeOf_addedType field type
  exact congrArg (fun ts => some (⟨table, false, [(field, ts)]⟩ : Definition)) hcolumn

end Command

end DocStore
