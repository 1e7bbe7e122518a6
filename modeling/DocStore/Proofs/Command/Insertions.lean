import DocStore.Proofs.Command.Items
import DocStore.Proofs.Command.Names
import DocStore.Proofs.Row.Cells

/-!
# Insertions

An insertion names the columns of a row and then writes one value for each.  `Insertion.read?` reads
both from the tokens of a text.

The text of an insertion names every entry of the document that is stored, and the value in the
place of a column is what this entry is encoded as (`EncodedRow.inserted_of_ofObject`).
-/

namespace DocStore

open Sql

/-- What a text inserts: columns, and the tokens of their values. -/
structure Insertion where
  table : String
  columns : List String
  values : List (List Token)
  deriving DecidableEq

namespace Insertion

/-- The values behind the columns; nothing stands behind them. -/
def values? : List Token → Option (List (List Token))
  | ⟨.word, "VALUES"⟩ :: ts => (items? ts).bind fun r => if r.2 = [] then some r.1 else none
  | _ => none

/-- What tokens insert. -/
def read? : List Token → Option Insertion
  | ⟨.word, "INSERT"⟩ :: ⟨.word, "INTO"⟩ :: ⟨.name table, _⟩ :: ts =>
    (items? ts).bind fun r => (values? r.2).bind fun values =>
      (names? r.1).map fun columns => ⟨table, columns, values⟩
  | _ => none

/-- What a text inserts. -/
def ofText? (text : String) : Option Insertion := (solidTokens? text).bind read?

end Insertion

namespace EncodedRow

/-- The tokens of a cell. -/
def Cell.tokens : Cell → List Token
  | .skip => []
  | .value p => [p.token]
  | .point p =>
    [⟨.word, "POINT"⟩, ⟨.mark, "("⟩, (Param.value (.ofFloat p.longitude)).token, ⟨.mark, ","⟩,
      (Param.value (.ofFloat p.latitude)).token, ⟨.mark, ")"⟩]

/-- The cells in the order of the columns. -/
def cells (row : EncodedRow) : List Cell :=
  row.values.map (fun c => .value c.2) ++ row.points.map fun c => .point c.2

/-- The parameters of a point. -/
def coordinates (p : String × GeoPoint) : List Param :=
  [.value (.ofFloat p.2.longitude), .value (.ofFloat p.2.latitude)]

theorem isItem_tokens (cell : Cell) : IsItem cell.tokens := by
  cases cell with
  | skip => rfl
  | value p => exact .singleton p.kind_token_ne
  | point p =>
    -- the parenthesis behind the word is the one that is closed at the end
    have hlongitude := fun d => stepOpen_of_kind_ne
      (Param.kind_token_ne (.value (.ofFloat p.longitude))) d
    have hlatitude := fun d => stepOpen_of_kind_ne
      (Param.kind_token_ne (.value (.ofFloat p.latitude))) d
    simp only [IsItem, Cell.tokens, runOpen, hlongitude, hlatitude]
    rfl

theorem ne_nil_of_mem_cells {row : EncodedRow} : [] ∉ row.cells.map Cell.tokens := by
  simp [cells, Cell.tokens]

/-- Points whose coordinates stand behind other parameters. -/
theorem map_solidTokens_points (front : List Param) (points : List (String × GeoPoint)) :
    ((List.range points.length).map fun i =>
      sql ["POINT(", .slot (front.length + 1 + 2 * i), ", ",
        .slot (front.length + 1 + 2 * i + 1), ")"]).map
          (Template.solidTokens (Param.tokenAt (front ++ points.flatMap coordinates))) =
      (points.map fun p => Cell.point p.2).map Cell.tokens := by
  induction points generalizing front with
  | nil => rfl
  | cons p rest ih =>
    have hopen : solid "POINT(" = [⟨.word, "POINT"⟩, ⟨.mark, "("⟩] := by decide
    have hcomma : solid ", " = [⟨.mark, ","⟩] := by decide
    have hclose : solid ")" = [⟨.mark, ")"⟩] := by decide
    -- behind the coordinates of this point stand those of the others
    have hrest := ih (front ++ coordinates p)
    have hnumber : ∀ i, (front ++ coordinates p).length + 1 + 2 * i =
        front.length + 1 + 2 * (i + 1) := by
      intro i
      simp only [List.length_append, coordinates, List.length_cons, List.length_nil]
      omega
    simp only [hnumber, List.append_assoc] at hrest
    have hlongitude : Param.tokenAt (front ++ (coordinates p ++ rest.flatMap coordinates))
        (front.length + 1) = (Param.value (.ofFloat p.2.longitude)).token := by
      simp [Param.tokenAt, coordinates]
    have hlatitude : Param.tokenAt (front ++ (coordinates p ++ rest.flatMap coordinates))
        (front.length + 1 + 1) = (Param.value (.ofFloat p.2.latitude)).token := by
      simp [Param.tokenAt, coordinates]
    rw [List.length_cons, List.range_succ_eq_map, List.map_cons, List.map_map, List.map_cons,
      List.flatMap_cons, List.map_cons, List.map_cons]
    refine congrArg₂ List.cons ?_ hrest
    simp [Template.slot, Template.solidTokens, hopen, hcomma, hclose, hlongitude, hlatitude,
      Cell.tokens]

/-- The values of an insertion are written as the cells of the row. -/
theorem map_solidTokens_valueTexts (table : String) (row : EncodedRow) :
    row.valueTexts.map (Template.solidTokens
      (Param.tokenAt (row.insertStatement table).params)) = row.cells.map Cell.tokens := by
  let front : List Param := .ident table :: row.columns.map .ident
  have hfront : front.length + 1 = row.firstValue := by
    simp only [front, List.length_cons, List.length_map, firstValue]
    omega
  have hvalues := Template.map_solidTokens_slotsFrom front (row.values.map (·.2))
    (row.points.flatMap coordinates)
  have hpoints := map_solidTokens_points (front ++ row.values.map (·.2)) row.points
  have hbehind : (front ++ row.values.map (·.2)).length + 1 = row.firstPoint := by
    rw [List.length_append, List.length_map, firstPoint, ← hfront]
    omega
  have hparams : (row.insertStatement table).params =
      front ++ (row.values.map (·.2) ++ row.points.flatMap coordinates) := by
    rw [← List.append_assoc]
    rfl
  rw [hfront, List.length_map, ← hparams] at hvalues
  rw [hbehind, List.append_assoc, ← hparams] at hpoints
  have hscalars : ((row.values.map (·.2)).map fun p => [p.token]) =
      (row.values.map fun c => Cell.value c.2).map Cell.tokens := by
    rw [List.map_map, List.map_map]
    rfl
  rw [valueTexts, List.map_append, hvalues, hpoints, hscalars, cells, List.map_append]

theorem tokens_insert (table : String) (row : EncodedRow) :
    (Command.insert table row).tokens =
      ⟨.word, "INSERT"⟩ :: ⟨.word, "INTO"⟩ :: (Param.ident table).token ::
        (listTokens (nameItems row.columns) ++
          ⟨.word, "VALUES"⟩ :: listTokens (row.cells.map Cell.tokens)) := by
  let g := Param.tokenAt (row.insertStatement table).params
  have hinsert : solid "INSERT INTO " = [⟨.word, "INSERT"⟩, ⟨.word, "INTO"⟩] := by decide
  have hopen : solid " (" = [⟨.mark, "("⟩] := by decide
  have hvaluesWord : solid ") VALUES (" = [⟨.mark, ")"⟩, ⟨.word, "VALUES"⟩, ⟨.mark, "("⟩] := by
    decide +kernel
  have hclose : solid ")" = [⟨.mark, ")"⟩] := by decide
  have htable : g 1 = (Param.ident table).token := rfl
  have hcolumns : (slotsFrom 2 row.columns.length).map (Template.solidTokens g) =
      nameItems row.columns := by
    have hslots := Template.map_solidTokens_slotsFrom [.ident table] (row.columns.map .ident)
      (row.values.map (·.2) ++ row.points.flatMap coordinates)
    have hparams : [.ident table] ++ (row.columns.map .ident ++
        (row.values.map (·.2) ++ row.points.flatMap coordinates)) =
          (row.insertStatement table).params := by
      rw [List.singleton_append, ← List.append_assoc]
      rfl
    rw [hparams, List.length_map, List.map_map] at hslots
    exact hslots
  have hstatement : (Command.insert table row).tokens =
      (sql ["INSERT INTO ", .slot 1, " (", .join ", " (slotsFrom 2 row.columns.length),
        ") VALUES (", .join ", " row.valueTexts, ")"]).solidTokens g := rfl
  have hcells : row.valueTexts.map (Template.solidTokens g) = row.cells.map Cell.tokens :=
    map_solidTokens_valueTexts table row
  simp [hstatement, Template.solidTokens_commas, hcolumns, hcells, hinsert, hopen, hvaluesWord,
    hclose, Template.slot, Template.solidTokens, htable, listTokens]

/-- A text reads back as the row that it is written for. -/
theorem read?_tokens_insert (table : String) (row : EncodedRow) :
    Insertion.read? (Command.insert table row).tokens =
      some ⟨table, row.columns, row.cells.map Cell.tokens⟩ := by
  have hcolumns := items?_nameItems row.columns
    (⟨.word, "VALUES"⟩ :: listTokens (row.cells.map Cell.tokens))
  have hitems : ∀ item ∈ row.cells.map Cell.tokens, IsItem item := by
    intro item hitem
    obtain ⟨cell, -, rfl⟩ := List.mem_map.1 hitem
    exact isItem_tokens cell
  have hitemsRead := items?_listTokens hitems ne_nil_of_mem_cells []
  rw [List.append_nil] at hitemsRead
  have hvalues : Insertion.values? (⟨.word, "VALUES"⟩ :: listTokens (row.cells.map Cell.tokens)) =
      some (row.cells.map Cell.tokens) :=
    (congrArg (Option.bind · _) hitemsRead).trans rfl
  rw [tokens_insert]
  refine (congrArg (Option.bind · _) hcolumns).trans ?_
  rw [Option.bind_some, hvalues, Option.bind_some, names?_nameItems]
  rfl

/-! ### Documents -/

variable {now : String} {row : EncodedRow} {schema : ClassSchema} {object : Object}

theorem columns_of_ofObject (h : ofObject now schema object = .ok row) :
    row.columns = Object.keys (schema.storage.scalars (Document.written object) ++
      schema.storage.points (Document.written object)) := by
  obtain ⟨hvalues, hpoints⟩ := cells_of_encodeFields (encodeFields_of_ofObject h)
  rw [columns, keys_of_encodes hvalues, keys_of_encodes hpoints]
  exact (List.map_append ..).symm

/-- No two cells are of one column. -/
theorem nodup_columns (h : ofObject now schema object = .ok row) : row.columns.Nodup := by
  rw [columns_of_ofObject h]
  exact ClassSchema.nodup_keys_stored (Document.nodup_keys_written object)

/-- Every entry that is not `null` and no relation has a column, and nothing else has. -/
theorem mem_columns_iff {name : String} (h : ofObject now schema object = .ok row) :
    name ∈ row.columns ↔ ∃ v type, (name, v) ∈ Document.written object ∧ v ≠ .null ∧
      schema.storage.fieldType? name = some type ∧ type.isRelation = false := by
  have hperm := (ClassSchema.scalars_append_points_perm schema.storage
    (Document.written object)).map Prod.fst
  have hnull : ∀ v : Json, v.isNull = false ↔ v ≠ .null := by
    intro v
    cases v <;> simp [Json.isNull]
  rw [columns_of_ofObject h, Object.keys, hperm.mem_iff, List.mem_map]
  simp only [List.mem_filter, ClassSchema.stores_iff, hnull]
  constructor
  · rintro ⟨⟨key, v⟩, ⟨hmem, hne, type, htype, hrelation⟩, rfl⟩
    exact ⟨v, type, hmem, hne, htype, hrelation⟩
  · rintro ⟨v, type, hmem, hne, htype, hrelation⟩
    exact ⟨(name, v), ⟨hmem, hne, type, htype, hrelation⟩, rfl⟩

/-- **An insertion names what a document stores, and writes it in the place of its column.**  The
columns are distinct, belong to the table of the class, and are the keys of the entries that are not
`null` and no relations, those of points behind the others.  The text names them in this order, and
the value in the place of a column is what the entry of this key is encoded as. -/
theorem inserted_of_ofObject (h : ofObject now schema object = .ok row) :
    let scalars := schema.storage.scalars (Document.written object)
    let points := schema.storage.points (Document.written object)
    row.columns.Nodup ∧
      (∀ name ∈ row.columns, name ∈ schema.columns.map Column.name) ∧
      (∀ name, name ∈ row.columns ↔ ∃ v type, (name, v) ∈ Document.written object ∧ v ≠ .null ∧
        schema.storage.fieldType? name = some type ∧ type.isRelation = false) ∧
      row.values.map Prod.fst = scalars.map Prod.fst ∧
      row.points.map Prod.fst = points.map Prod.fst ∧
      ∀ table, ∃ text placed, (Command.insert table row).render = .ok text ∧
        List.Forall₂ (Encodes now schema.storage) (scalars ++ points) placed ∧
        Insertion.ofText? text =
          some ⟨table, (scalars ++ points).map Prod.fst, placed.map fun c => c.2.tokens⟩ := by
  obtain ⟨hvalues, hpoints⟩ := cells_of_encodeFields (encodeFields_of_ofObject h)
  refine ⟨nodup_columns h, fun name hname => ?_, fun name => mem_columns_iff h,
    keys_of_encodes hvalues, keys_of_encodes hpoints, fun table => ?_⟩
  · obtain ⟨-, type, -, -, htype, hrelation⟩ := (mem_columns_iff h).1 hname
    exact ClassSchema.mem_columns_iff.2 (.inr ⟨type, htype, hrelation⟩)
  · obtain ⟨text, htext, htokens⟩ :=
      Command.solidTokens?_render (c := .insert table row) ⟨now, schema, object, h⟩
    refine ⟨text, row.values.map (fun c => (c.1, .value c.2)) ++
      row.points.map (fun c => (c.1, .point c.2)), htext, ?_, ?_⟩
    · exact List.rel_append (List.forall₂_map_right_iff.2 hvalues)
        (List.forall₂_map_right_iff.2 hpoints)
    · rw [Insertion.ofText?, htokens, Option.bind_some, read?_tokens_insert, columns_of_ofObject h]
      simp [cells, Object.keys, Function.comp_def]

/-- A class of voyages. -/
def voyageSchema : ClassSchema :=
  (((((ClassSchema.named "Voyage").field "name" .string).field "ports" .object).field
    "authData" .object).field "crew" (.relation "_User")).field "position" .geoPoint

/-- A voyage with a dotted key, the key of a provider, a relation and an entry that is `null`. -/
def voyage : Object :=
  [("_auth_data_pilot", .obj [("id", .str "p1")]),
    ("position", GeoPoint.toJson ⟨.ofInt 3, .ofInt 4⟩), ("crew", .obj []), ("note", .null),
    ("ports.home", .str "Calais"), ("name", .str "`Ida`, \\")]

/-- The row of the voyage. -/
def voyageRow : EncodedRow where
  values := [("name", .text "`Ida`, \\"), ("ports", .json (.obj [("home", .str "Calais")])),
    ("authData", .json (.obj [("pilot", .obj [("id", .str "p1")])]))]
  points := [("position", ⟨.ofInt 3, .ofInt 4⟩)]

theorem inserted_of_ofObject_voyage :
    ofObject "" voyageSchema voyage = .ok voyageRow ∧
      voyageRow.columns = ["name", "ports", "authData", "position"] ∧ voyageRow.columns.Nodup ∧
      ∃ text placed, (Command.insert "Voyage" voyageRow).render = .ok text ∧
        List.Forall₂ (Encodes "" voyageSchema.storage)
          (voyageSchema.storage.scalars (Document.written voyage) ++
            voyageSchema.storage.points (Document.written voyage)) placed ∧
        Insertion.ofText? text =
          some ⟨"Voyage", voyageRow.columns, placed.map fun c => c.2.tokens⟩ := by
  have hrow : ofObject "" voyageSchema voyage = .ok voyageRow := by decide +kernel
  obtain ⟨hdistinct, -, -, hscalars, hpoints, hwritten⟩ := inserted_of_ofObject hrow
  obtain ⟨text, placed, htext, hplaced, hread⟩ := hwritten "Voyage"
  rw [List.map_append, ← hscalars, ← hpoints] at hread
  exact ⟨hrow, rfl, hdistinct, text, placed, htext, hplaced, hread⟩

end EncodedRow

end DocStore
