import DocStore.Proofs.Document.Distinct
import DocStore.Row.Encoding

/-!
# Rows with plain keys

The keys of a document are checked when its dotted keys have been expanded, and provider keys are
folded behind the check.  This brings in no reserved key, because a provider's name has no dots and
no dollar signs (`Document.isPlain_foldAuthData`).  So every JSON document in a row is plain
(`EncodedRow.isPlain_values`).
-/

namespace DocStore

open Sql

/-- A parameter that is a JSON document has plain keys. -/
def Sql.Param.IsPlain : Param → Prop
  | .json v => v.IsPlain
  | .ident _ | .raw _ | .value _ => True

@[simp] theorem Sql.Param.isPlain_json {v : Json} : (Param.json v).IsPlain ↔ v.IsPlain := Iff.rfl

@[simp] theorem Sql.Param.isPlain_value (v : Json) : (Param.value v).IsPlain := trivial

variable {o : Object} {key : String} {v : Json}

/-- The name of a provider is not reserved. -/
theorem Key.isReserved_of_provider? {provider : String} (h : provider? key = some provider) :
    isReserved provider = false := by
  have hname := (provider?_eq_some_iff.1 h).2.2
  exact isReserved_eq_false_iff.2 ⟨fun hmem => absurd (hname _ hmem) (by decide),
    fun hmem => absurd (hname _ hmem) (by decide)⟩

namespace Object

theorem mem_of_mem_erase {e : String × Json} (h : e ∈ o.erase key) : e ∈ o :=
  (erase_subperm key o).subset h

theorem isPlain_get? (ho : (Json.obj o).IsPlain) (h : o.get? key = some v) : v.IsPlain := by
  obtain ⟨before, behind, rfl, -⟩ := List.lookup_eq_some_iff.1 h
  exact (Json.isPlain_obj.1 ho (key, v) (List.mem_append_right _ List.mem_cons_self)).2

theorem isPlain_alter {f : Option Json → Json} (ho : (Json.obj o).IsPlain)
    (hkey : Key.isReserved key = false)
    (hf : ∀ old, (∀ w, old = some w → w.IsPlain) → (f old).IsPlain) :
    (Json.obj (o.alter f key)).IsPlain := by
  rw [Json.isPlain_obj] at ho ⊢
  induction o with
  | nil => exact List.forall_mem_singleton.2 ⟨hkey, hf none nofun⟩
  | cons entry rest ih =>
    obtain ⟨k, w⟩ := entry
    obtain ⟨⟨hk, hw⟩, hrest⟩ := List.forall_mem_cons.1 ho
    rw [alter]
    split
    · refine List.forall_mem_cons.2 ⟨⟨hk, hf (some w) ?_⟩, hrest⟩
      rintro _ ⟨⟩
      exact hw
    · exact List.forall_mem_cons.2 ⟨⟨hk, hw⟩, ih hrest⟩

end Object

namespace Document

theorem isPlain_foldProvider {provider : String} (ho : (Json.obj o).IsPlain)
    (hprovider : Key.isReserved provider = false) :
    (Json.obj (foldProvider o key provider)).IsPlain := by
  unfold foldProvider
  split
  · exact ho
  · next v hv =>
    have hplain : v.IsPlain := Object.isPlain_get? ho hv
    have herase : (Json.obj (o.erase key)).IsPlain :=
      Json.isPlain_obj.2 fun e he => Json.isPlain_obj.1 ho e (Object.mem_of_mem_erase he)
    refine Object.isPlain_alter herase (by decide +kernel) fun old hold => ?_
    split
    · next providers => exact Object.isPlain_alter (hold _ rfl) hprovider fun _ _ => hplain
    · exact Json.isPlain_obj.2 (List.forall_mem_singleton.2 ⟨hprovider, hplain⟩)

/-- Provider keys bring no reserved key into `authData`. -/
theorem isPlain_foldAuthData (ho : (Json.obj o).IsPlain) :
    (Json.obj (foldAuthData o)).IsPlain := by
  have hfold : ∀ (found : List (String × String)) (o : Object),
      (∀ e ∈ found, Key.isReserved e.2 = false) → (Json.obj o).IsPlain →
        (Json.obj (found.foldl (fun o e => foldProvider o e.1 e.2) o)).IsPlain := by
    intro found
    induction found with
    | nil => exact fun o _ ho => ho
    | cons e rest ih =>
      intro o hfound ho
      obtain ⟨he, hrest⟩ := List.forall_mem_cons.1 hfound
      exact ih _ hrest (isPlain_foldProvider ho he)
  refine hfold _ o (fun e he => ?_) ho
  obtain ⟨f, -, hf⟩ := List.mem_filterMap.1 he
  obtain ⟨provider, hprovider, rfl⟩ := Option.map_eq_some_iff.1 hf
  exact Key.isReserved_of_provider? hprovider

end Document

namespace EncodedRow

variable {now : String} {p : Param}

theorem isPlain_encodeCell {field : String} {type : FieldType} {data : Json}
    (hdata : data.IsPlain) (h : encodeCell now field type data = .ok (.value p)) : p.IsPlain := by
  cases type with
  | date =>
    obtain ⟨q, hq, ⟨⟩⟩ := Result.map_eq_ok.1 h
    unfold encodeDate at hq
    split at hq
    · cases hq
      trivial
    · obtain ⟨text, -, rfl⟩ := Result.map_eq_ok.1 hq
      cases text <;> trivial
  | array | arrayOf | object =>
    simp only [encodeCell] at h
    split at h
    · cases h
      exact hdata
    · cases h
  | bytes =>
    cases h
    exact hdata
  | _ =>
    -- the other types have no JSON documents
    simp only [encodeCell] at h
    repeat' split at h
    all_goals
      cases h
      try trivial

theorem isPlain_encodeFields {storage : ClassSchema} {entries : List (String × Json)}
    {row : EncodedRow} (hentries : ∀ e ∈ entries, e.2.IsPlain)
    (h : encodeFields now storage entries = .ok row) : ∀ e ∈ row.values, e.2.IsPlain := by
  induction entries generalizing row with
  | nil =>
    cases h
    simp
  | cons entry rest ih =>
    obtain ⟨field, data⟩ := entry
    obtain ⟨hdata, hrest⟩ := List.forall_mem_cons.1 hentries
    rw [encodeFields] at h
    split at h
    · exact ih hrest h
    · obtain ⟨type, -, h⟩ := Result.bind_eq_ok.1 h
      obtain ⟨cell, hcell, h⟩ := Result.bind_eq_ok.1 h
      obtain ⟨others, hothers, h⟩ := Result.bind_eq_ok.1 h
      cases cell with
      | skip =>
        cases h
        exact ih hrest hothers
      | point p =>
        cases h
        have hplain : ∀ e ∈ others.values, e.2.IsPlain := ih hrest hothers
        exact hplain
      | value p =>
        cases h
        exact List.forall_mem_cons.2 ⟨isPlain_encodeCell hdata hcell, ih hrest hothers⟩

/-- **Every JSON document in a row has plain keys.** -/
theorem isPlain_values {schema : ClassSchema} {row : EncodedRow}
    (h : ofObject now schema o = .ok row) : ∀ e ∈ row.values, e.2.IsPlain := by
  obtain ⟨_, hchecked, h⟩ := Result.bind_eq_ok.1 h
  have hplain := Document.isPlain_foldAuthData ((Document.checkKeys_eq_ok_iff _).1 hchecked)
  exact isPlain_encodeFields (fun e he => (Json.isPlain_obj.1 hplain e he).2) h

end EncodedRow

end DocStore
