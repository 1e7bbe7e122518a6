import DocStore.Proofs.Row.Single

/-!
# The cells of a row

The entries of a document that are not `null` and are no relations become the cells of its row,
those with points apart from the others, each group in the order of the document
(`EncodedRow.cells_of_encodeFields`).  No two of them have the same key
(`ClassSchema.nodup_keys_stored`).
-/

namespace DocStore

open Sql

/-- Documents as they are stored: dotted keys are expanded and provider keys folded. -/
def Document.written (o : Object) : Object := foldAuthData (expand o)

theorem Document.nodup_keys_written (o : Object) : (written o).keys.Nodup :=
  nodup_keys_foldAuthData (nodup_keys_expand o)

namespace ClassSchema

variable (storage : ClassSchema)

/-- The entry has a value for a column: it is not `null`, and no relation. -/
def stores (e : String × Json) : Bool :=
  !e.2.isNull && (storage.fieldType? e.1).any fun type => !type.isRelation

/-- The entry is of a field of points. -/
def isPoint (e : String × Json) : Bool := storage.fieldType? e.1 == some .geoPoint

/-- The entries with a value for a column other than of points, in order. -/
def scalars (o : Object) : Object := (o.filter storage.stores).filter fun e => !storage.isPoint e

/-- The entries with a point, in order. -/
def points (o : Object) : Object := (o.filter storage.stores).filter storage.isPoint

variable {storage} {o : Object} {e : String × Json}

theorem stores_iff : storage.stores e = true ↔ e.2.isNull = false ∧
    ∃ type, storage.fieldType? e.1 = some type ∧ type.isRelation = false := by
  simp [stores, Option.any_eq_true]

theorem scalars_cons (e : String × Json) (rest : Object) :
    storage.scalars (e :: rest) =
      if storage.stores e && !storage.isPoint e then e :: storage.scalars rest
      else storage.scalars rest := by
  simp only [scalars, List.filter_filter]
  rw [List.filter_cons, Bool.and_comm]

theorem points_cons (e : String × Json) (rest : Object) :
    storage.points (e :: rest) =
      if storage.stores e && storage.isPoint e then e :: storage.points rest
      else storage.points rest := by
  simp only [points, List.filter_filter]
  rw [List.filter_cons, Bool.and_comm]

theorem scalars_append_points_perm (storage : ClassSchema) (o : Object) :
    (storage.scalars o ++ storage.points o).Perm (o.filter storage.stores) := by
  have hperm := List.filter_append_perm storage.isPoint (o.filter storage.stores)
  exact List.perm_append_comm.trans (by simpa [scalars, points] using hperm)

/-- No two of the entries that are stored have the same key. -/
theorem nodup_keys_stored (h : o.keys.Nodup) :
    (Object.keys (storage.scalars o ++ storage.points o)).Nodup := by
  have hperm := (scalars_append_points_perm storage o).map Prod.fst
  exact hperm.nodup_iff.2 (h.sublist (List.filter_sublist.map Prod.fst))

end ClassSchema

namespace EncodedRow

variable {now : String} {storage : ClassSchema} {entries : Object} {row : EncodedRow}

/-- The cell is what its entry becomes. -/
def Encodes (now : String) (storage : ClassSchema) (e : String × Json) (c : String × Cell) : Prop :=
  c.1 = e.1 ∧
    ∃ type, storage.fieldType? e.1 = some type ∧ encodeCell now e.1 type e.2 = .ok c.2

/-- The cell is none. -/
def Cell.isSkip : Cell → Bool
  | .skip => true
  | _ => false

/-- The cell is a point. -/
def Cell.isPoint : Cell → Bool
  | .point _ => true
  | _ => false

/-- The type of a field decides what its cell is. -/
theorem isSkip_of_encodeCell {field : String} {type : FieldType} {data : Json} {cell : Cell}
    (h : encodeCell now field type data = .ok cell) :
    type.isRelation = cell.isSkip ∧ (type == .geoPoint) = cell.isPoint := by
  cases type with
  | relation target | bytes =>
    cases h
    exact ⟨rfl, rfl⟩
  | date =>
    obtain ⟨p, -, rfl⟩ := Result.map_eq_ok.1 h
    exact ⟨rfl, rfl⟩
  | _ =>
    -- the other types look at the value and give a cell or refuse
    simp only [encodeCell] at h
    repeat' split at h
    all_goals
      cases h
      try exact ⟨rfl, rfl⟩

/-- **The cells of a row are those of the entries that are stored.** -/
theorem cells_of_encodeFields (h : encodeFields now storage entries = .ok row) :
    List.Forall₂ (fun e c => Encodes now storage e (c.1, .value c.2)) (storage.scalars entries)
        row.values ∧
      List.Forall₂ (fun e c => Encodes now storage e (c.1, .point c.2)) (storage.points entries)
        row.points := by
  induction entries generalizing row with
  | nil =>
    cases h
    exact ⟨.nil, .nil⟩
  | cons e rest ih =>
    obtain ⟨field, data⟩ := e
    rw [encodeFields] at h
    rw [ClassSchema.scalars_cons, ClassSchema.points_cons]
    split at h
    · next hnull =>
      have hskip : storage.stores (field, data) = false := by simp [ClassSchema.stores, hnull]
      rw [hskip]
      exact ih h
    · next hnull =>
      obtain ⟨type, hknown, h⟩ := Result.bind_eq_ok.1 h
      obtain ⟨cell, hcell, h⟩ := Result.bind_eq_ok.1 h
      obtain ⟨others, hothers, h⟩ := Result.bind_eq_ok.1 h
      have htype := orFault_eq_ok.1 hknown
      have hencodes : Encodes now storage (field, data) (field, cell) := ⟨rfl, type, htype, hcell⟩
      obtain ⟨hskip, hpoint⟩ := isSkip_of_encodeCell hcell
      have hstores : storage.stores (field, data) = !cell.isSkip := by
        simp [ClassSchema.stores, hnull, htype, hskip]
      have hisPoint : storage.isPoint (field, data) = cell.isPoint := by
        simpa [ClassSchema.isPoint, htype] using hpoint
      obtain ⟨hvalues, hpoints⟩ := ih hothers
      rw [hstores, hisPoint]
      cases cell with
      | skip =>
        cases h
        exact ⟨hvalues, hpoints⟩
      | value p =>
        cases h
        exact ⟨.cons hencodes hvalues, hpoints⟩
      | point p =>
        cases h
        exact ⟨hvalues, .cons hencodes hpoints⟩

theorem keys_of_encodes {β : Type} {cells : List (String × β)} {make : β → Cell}
    (h : List.Forall₂ (fun e c => Encodes now storage e (c.1, make c.2)) entries cells) :
    cells.map Prod.fst = entries.keys := by
  have hkeys : List.Forall₂ (· = ·) (entries.map Prod.fst) (cells.map Prod.fst) := by
    rw [List.forall₂_map_left_iff, List.forall₂_map_right_iff]
    exact h.imp fun e c hencodes => hencodes.1.symm
  rw [List.forall₂_eq_eq_eq] at hkeys
  exact hkeys.symm

variable {schema : ClassSchema} {object : Object}

/-- A document is encoded as it is written. -/
theorem encodeFields_of_ofObject (h : ofObject now schema object = .ok row) :
    encodeFields now schema.storage (Document.written object) = .ok row := by
  obtain ⟨_, -, h⟩ := Result.bind_eq_ok.1 h
  exact h

end EncodedRow

end DocStore
