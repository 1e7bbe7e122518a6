import DocStore.Proofs.Document.Keys

/-!
# What maps hold

Maps are told apart by what they hold under each key (`Dict.ext_get?`), because their entries stand
in the one order of the keys (`Dict.eq_of_mem_iff`).  What is found after several insertions or
removals is found in the list of what was inserted or removed.
-/

namespace DocStore

namespace Dict

variable {α : Type} {d d' : Dict α} {key : String} {v : α}

theorem get?_eq_some_iff : d.get? key = some v ↔ (key, v) ∈ d.entries :=
  lookup_eq_some_iff d.nodup_keys

/-- Entries in the order of their keys are determined by which they are. -/
theorem eq_of_mem_iff {es es' : List (String × α)} (h : es.Pairwise fun a b => a.1 < b.1)
    (h' : es'.Pairwise fun a b => a.1 < b.1) (hmem : ∀ e, e ∈ es ↔ e ∈ es') : es = es' := by
  have hnodup : ∀ l : List (String × α), (l.Pairwise fun a b => a.1 < b.1) → l.Nodup := by
    intro l hl
    refine hl.imp fun hlt heq => ?_
    rw [heq] at hlt
    exact String.lt_irrefl _ hlt
  have hperm : es.Perm es' := (List.perm_ext_iff_of_nodup (hnodup _ h) (hnodup _ h')).2 hmem
  refine hperm.eq_of_pairwise (fun a b _ _ hab hba => ?_) h h'
  exact absurd (String.lt_trans hab hba) (String.lt_irrefl _)

/-- Maps that hold the same under every key are the same. -/
theorem ext_get? (h : ∀ key, d.get? key = d'.get? key) : d = d' := by
  have hmem : ∀ e, e ∈ d.entries ↔ e ∈ d'.entries := fun e => by
    rw [← get?_eq_some_iff, ← get?_eq_some_iff, h]
  obtain ⟨es, hsorted⟩ := d
  obtain ⟨es', hsorted'⟩ := d'
  obtain rfl : es = es' := eq_of_mem_iff hsorted hsorted' hmem
  rfl

theorem get?_empty (key : String) : (empty : Dict α).get? key = none := rfl

theorem get?_insert (d : Dict α) (name : String) (v : α) (key : String) :
    (d.insert name v).get? key = if key = name then some v else d.get? key := by
  split
  · next hkey => rw [hkey, get?_insert_self]
  · next hkey => rw [get?_insert_of_ne _ hkey]

theorem get?_insertIfNew (d : Dict α) (name : String) (v : α) (key : String) :
    (d.insertIfNew name v).get? key = (d.get? key).or (if key = name then some v else none) := by
  unfold insertIfNew
  split
  · next hkey =>
    rw [hkey, get?_alter_self]
    cases d.get? name <;> rfl
  · next hkey => rw [get?_alter_of_ne _ hkey, Option.or_none]

theorem get?_erase (d : Dict α) (name key : String) :
    (d.erase name).get? key = if key = name then none else d.get? key := by
  refine Option.ext fun v => ?_
  rw [get?_eq_some_iff, erase, List.mem_filter, ← get?_eq_some_iff]
  split
  · next hkey => simp [hkey]
  · next hkey => simp [hkey]

/-- A new key gets an entry of its own, and the others stay. -/
theorem alterEntries_perm (f : Option α → α) {es : List (String × α)}
    (h : key ∉ es.map Prod.fst) : (alterEntries f key es).Perm ((key, f none) :: es) := by
  induction es with
  | nil => rfl
  | cons e rest ih =>
    obtain ⟨k, w⟩ := e
    obtain ⟨hne, hrest⟩ := not_or.1 (List.mem_cons.not.1 h)
    rw [alterEntries, if_neg hne]
    split
    · rfl
    · exact ((ih hrest).cons _).trans (.swap _ _ _)

theorem entries_insert_perm (h : d.get? key = none) (v : α) :
    (d.insert key v).entries.Perm ((key, v) :: d.entries) := by
  refine alterEntries_perm (fun _ => v) fun hmem => ?_
  obtain ⟨e, he, rfl⟩ := List.mem_map.1 hmem
  have hfound : d.get? e.1 = some e.2 := get?_eq_some_iff.2 he
  rw [h] at hfound
  cases hfound

/-! ### Many entries at once -/

theorem lookup_eq_none {es : List (String × α)} (h : key ∉ es.map Prod.fst) :
    es.lookup key = none := by
  refine List.lookup_eq_none_iff.2 fun e he => ?_
  have hne : key ≠ e.1 := fun heq => h (heq ▸ List.mem_map_of_mem he)
  simpa using hne

theorem lookup_map_snd {β : Type} (f : α → β) (es : List (String × α)) (key : String) :
    (es.map fun e => (e.1, f e.2)).lookup key = (es.lookup key).map f := by
  induction es with
  | nil => rfl
  | cons e rest ih =>
    rw [List.map_cons, List.lookup_cons, List.lookup_cons, ih]
    split <;> rfl

theorem lookup_cons_eq_or (e : String × α) (es : List (String × α)) (key : String) :
    (e :: es).lookup key = (if key = e.1 then some e.2 else none).or (es.lookup key) := by
  rw [List.lookup_cons]
  split <;> simp_all

/-- Of entries with different keys all are found again. -/
theorem get?_foldl_insert {es : List (String × α)} (h : (es.map Prod.fst).Nodup) (d : Dict α)
    (key : String) :
    (es.foldl (fun d e => d.insert e.1 e.2) d).get? key = (es.lookup key).or (d.get? key) := by
  induction es generalizing d with
  | nil => rfl
  | cons e rest ih =>
    obtain ⟨hnew, hrest⟩ := List.nodup_cons.1 h
    rw [List.foldl_cons, ih hrest, lookup_cons_eq_or, get?_insert]
    by_cases hkey : key = e.1
    · simp [hkey, lookup_eq_none hnew]
    · simp [hkey]

theorem get?_foldl_insertIfNew (es : List (String × α)) (d : Dict α) (key : String) :
    (es.foldl (fun d e => d.insertIfNew e.1 e.2) d).get? key =
      (d.get? key).or (es.lookup key) := by
  induction es generalizing d with
  | nil => simp
  | cons e rest ih =>
    rw [List.foldl_cons, ih, get?_insertIfNew, lookup_cons_eq_or, Option.or_assoc]

theorem get?_foldl_erase (names : List String) (d : Dict α) (key : String) :
    (names.foldl (fun d name => d.erase name) d).get? key =
      if key ∈ names then none else d.get? key := by
  induction names generalizing d with
  | nil => simp
  | cons name rest ih =>
    rw [List.foldl_cons, ih, get?_erase]
    by_cases hkey : key = name <;> simp [hkey]

/-- A map is made again of its entries. -/
theorem ofList_entries (d : Dict α) : ofList d.entries = d :=
  ext_get? fun key => by
    rw [ofList, get?_foldl_insert d.nodup_keys, get?_empty, Option.or_none, get?]

end Dict

end DocStore
