import DocStore.Proofs.Row.Plain

/-!
# Documents of one entry

A document of one entry, whose key is not a path and names no provider, becomes a row of one cell:
what the type of its field makes of the value (`EncodedRow.ofObject_single`).  If a value is stored
under the key of the only entry, then the key is of this kind (`EncodedRow.single_of_mem_values`).
-/

namespace DocStore

open Sql

theorem orFault_eq_ok {α : Type} {fault : Fault} {x : Option α} {a : α} :
    orFault fault x = .ok a ↔ x = some a := by
  cases x <;> simp [orFault]

variable {now f : String} {v : Json} {p : Param} {row : EncodedRow} {schema storage : ClassSchema}

theorem Document.expand_single (hdot : '.' ∉ f.toList) : expand [(f, v)] = [(f, v)] :=
  expand_eq_self (by simp [Object.keys]) (by simpa using hdot)

theorem Document.foldAuthData_single (hprovider : Key.provider? f = none) :
    foldAuthData [(f, v)] = [(f, v)] :=
  foldAuthData_eq_self (by simpa using hprovider)

/-- The key of a provider gives way to the column of all providers. -/
theorem Document.foldAuthData_provider {provider : String}
    (hprovider : Key.provider? f = some provider) :
    foldAuthData [(f, v)] = [("authData", .obj [(provider, v)])] := by
  simp [foldAuthData, hprovider, foldProvider, Object.get?, Object.erase, Object.alter]

namespace EncodedRow

/-- The row of one cell. -/
def ofCell (f : String) : Cell → EncodedRow
  | .skip => ⟨[], []⟩
  | .value p => ⟨[(f, p)], []⟩
  | .point p => ⟨[], [(f, p)]⟩

theorem encodeFields_single (h : encodeFields now storage [(f, v)] = .ok row) :
    (v = .null ∧ row = ⟨[], []⟩) ∨ ∃ type cell, storage.fieldType? f = some type ∧
      encodeCell now f type v = .ok cell ∧ row = ofCell f cell := by
  rw [encodeFields] at h
  split at h
  · next hnull =>
    cases v with
    | null =>
      cases h
      exact .inl ⟨rfl, rfl⟩
    | bool | num | str | arr | obj => cases hnull
  · obtain ⟨type, htype, h⟩ := Result.bind_eq_ok.1 h
    obtain ⟨cell, hcell, h⟩ := Result.bind_eq_ok.1 h
    obtain ⟨others, hothers, h⟩ := Result.bind_eq_ok.1 h
    cases hothers
    refine .inr ⟨type, cell, orFault_eq_ok.1 htype, hcell, ?_⟩
    cases cell <;> cases h <;> rfl

/-- **A document of one entry becomes a row of one cell.** -/
theorem ofObject_single (hdot : '.' ∉ f.toList) (hprovider : Key.provider? f = none)
    (h : ofObject now schema [(f, v)] = .ok row) :
    (v = .null ∧ row = ⟨[], []⟩) ∨ ∃ type cell, schema.storage.fieldType? f = some type ∧
      encodeCell now f type v = .ok cell ∧ row = ofCell f cell := by
  obtain ⟨_, -, h⟩ := Result.bind_eq_ok.1 h
  rw [Document.expand_single hdot, Document.foldAuthData_single hprovider] at h
  exact encodeFields_single h

/-- The columns of values are fields of the document. -/
theorem mem_keys_of_mem_values {entries : Object} {e : String × Param}
    (h : encodeFields now storage entries = .ok row) (he : e ∈ row.values) :
    e.1 ∈ entries.keys := by
  induction entries generalizing row with
  | nil =>
    cases h
    cases he
  | cons entry rest ih =>
    obtain ⟨field, data⟩ := entry
    rw [encodeFields] at h
    split at h
    · exact List.mem_cons_of_mem _ (ih h he)
    · obtain ⟨type, -, h⟩ := Result.bind_eq_ok.1 h
      obtain ⟨cell, -, h⟩ := Result.bind_eq_ok.1 h
      obtain ⟨others, hothers, h⟩ := Result.bind_eq_ok.1 h
      cases cell with
      | skip | point =>
        cases h
        exact List.mem_cons_of_mem _ (ih hothers he)
      | value p =>
        cases h
        rcases List.mem_cons.1 he with rfl | he
        · exact List.mem_cons_self
        · exact List.mem_cons_of_mem _ (ih hothers he)

/-- **A value that is stored under the key of the only entry is the entry's.** -/
theorem single_of_mem_values (h : ofObject now schema [(f, v)] = .ok row)
    (hp : (f, p) ∈ row.values) :
    Key.isReserved f = false ∧ Key.provider? f = none ∧
      ∃ type, schema.storage.fieldType? f = some type ∧
        encodeCell now f type v = .ok (.value p) := by
  obtain ⟨_, hchecked, hfields⟩ := Result.bind_eq_ok.1 h
  -- the column is a key of the document that was checked, so it holds no dot
  have hplain := Document.isPlain_foldAuthData ((Document.checkKeys_eq_ok_iff _).1 hchecked)
  obtain ⟨e, he, hkey⟩ := List.mem_map.1 (mem_keys_of_mem_values hfields hp)
  have hreserved : Key.isReserved f = false := by
    rw [← show e.1 = f from hkey]
    exact (Json.isPlain_obj.1 hplain e he).1
  have hdot := (Key.isReserved_eq_false_iff.1 hreserved).2
  -- and it is not folded away
  have hprovider : Key.provider? f = none := by
    cases hprovider : Key.provider? f with
    | none => rfl
    | some provider =>
      rw [Document.expand_single hdot, Document.foldAuthData_provider hprovider] at he
      rw [List.mem_singleton.1 he] at hkey
      have hnone : Key.provider? "authData" = none := by decide +kernel
      rw [← show "authData" = f from hkey, hnone] at hprovider
      cases hprovider
  refine ⟨hreserved, hprovider, ?_⟩
  rcases ofObject_single hdot hprovider h with ⟨-, rfl⟩ | ⟨type, cell, htype, hcell, rfl⟩
  · cases hp
  · cases cell with
    | skip | point => cases hp
    | value q =>
      cases List.mem_singleton.1 hp
      exact ⟨type, htype, hcell⟩

end EncodedRow

end DocStore
