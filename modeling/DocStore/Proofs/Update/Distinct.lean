import DocStore.Proofs.Update.Slots

/-!
# Entries of distinct columns

Where no two entries of an update are about the same column, none is added to what another one left:
each is an operator of its own (`Update.ofObject_eq_map`), and each operator a change of its own
(`Update.changesIn_eq`).  So another order of the entries gives the same changes in another order
(`Update.changes_perm`).
-/

namespace DocStore

/-- In lists with distinct keys, another order leaves what stands under a key. -/
theorem filter_eq_of_perm {α : Type} {key : α → String} {as bs : List α} (hperm : as.Perm bs)
    (h : (as.map key).Nodup) (k : String) :
    (as.filter fun a => key a == k) = bs.filter fun a => key a == k := by
  have hfilter := hperm.filter fun a => key a == k
  -- all that is left has one key, so it is one element at most
  have hsame : (as.filter fun a => key a == k).map key =
      List.replicate (as.filter fun a => key a == k).length k :=
    List.map_eq_replicate_iff.2 fun a ha => by simpa using (List.mem_filter.1 ha).2
  have hlength : (as.filter fun a => key a == k).length ≤ 1 := by
    have hdistinct := h.sublist
      ((List.filter_sublist (p := fun a => key a == k) (l := as)).map key)
    rwa [hsame, List.nodup_replicate] at hdistinct
  cases has : as.filter fun a => key a == k with
  | nil =>
    rw [has] at hfilter
    exact hfilter.nil_eq
  | cons a rest =>
    rw [has] at hfilter hlength
    obtain rfl : rest = [] := List.length_eq_zero_iff.1 (by simpa using hlength)
    exact List.singleton_perm.1 hfilter

namespace Update

variable {schema storage : ClassSchema} {u : Update} {o o' : Object} {c : Contribution}
  {column : String}

/-- A contribution as an operator of its own. -/
def Contribution.alone : Contribution → Operator
  | .part change => .patch (change.addTo .empty)
  | .providers entries => .providers entries
  | .operator op => op

/-- A contribution to a new column is put at the end. -/
theorem Contribution.addTo_of_not_mem (hnew : column ∉ u.map Prod.fst)
    (hproviders : c.slot = .providers → column = "authData") :
    c.addTo column u = u ++ [(column, c.alone)] := by
  have hother : ∀ {α : Type} {kind : α → Operator} {fresh : α} {f : α → α} {w : Update},
      Joined kind column fresh f u w → w = u ++ [(column, kind (f fresh))] := by
    intro α kind fresh f w h
    cases h with
    | first front a back => exact absurd (by simp) hnew
    | last _ hnone => rfl
  cases c with
  | part change => exact hother (joined_alterPatch _ column u)
  | providers entries =>
    obtain rfl := hproviders rfl
    exact hother (joined_addProviders entries u)
  | operator op => rfl

/-- The operator that an entry is read as, if it can be read. -/
def operatorOf (storage : ClassSchema) (e : String × Json) : Operator :=
  match contribution storage e with
  | .ok c => c.alone
  | .error _ => .relation

/-- **Entries of distinct columns are operators of their own.** -/
theorem ofObject_eq_map (hcolumns : (o.map fun e => columnOf e.1).Nodup)
    (h : ofObject schema o = .ok u) :
    u = (inOrder o).map fun e => (columnOf e.1, operatorOf schema.storage e) := by
  have hdistinct : ((inOrder o).map fun e => columnOf e.1).Nodup :=
    ((inOrder_perm o).map _).nodup_iff.2 hcolumns
  refine ofObject_keeps (P := fun before u =>
    u = before.map fun e => (columnOf e.1, operatorOf schema.storage e)) rfl ?_ h
  rintro before e c u hbefore hc rfl
  have hnew : columnOf e.1 ∉ before.map fun e => columnOf e.1 := by
    have hprefix := hdistinct.sublist (hbefore.sublist.map _)
    rw [List.map_append] at hprefix
    exact fun hmem => List.disjoint_of_nodup_append hprefix hmem (by simp)
  rw [Contribution.addTo_of_not_mem (by simpa [Function.comp_def] using hnew)
    (reaches_of_contribution hc).providers, List.map_append]
  simp [operatorOf, hc]

/-- The change that an operator makes; a relation makes none. -/
def changeOf? (storage : ClassSchema) (x : String × Operator) : Option Change :=
  match x.2 with
  | .relation => none
  | op => (operatorSteps storage x.1 op).toOption.map fun steps => ⟨x.1, steps⟩

theorem column_of_changeOf? {x : String × Operator} {change : Change}
    (h : changeOf? storage x = some change) : change.column = x.1 := by
  obtain ⟨column, op⟩ := x
  cases op with
  | relation => cases h
  | set | clear | increment | append | appendUnique | remove | patch | providers =>
    simp only [changeOf?, Option.map_eq_some_iff] at h
    obtain ⟨steps, -, rfl⟩ := h
    rfl

/-- Every operator makes a change of its own. -/
theorem changesIn_eq {made : List Change} (h : changesIn storage u = .ok made) :
    made = u.filterMap (changeOf? storage) := by
  induction u generalizing made with
  | nil =>
    cases h
    rfl
  | cons x rest ih =>
    obtain ⟨column, op⟩ := x
    rcases changesIn_cons h with ⟨rfl, h⟩ | ⟨hrelation, steps, others, hsteps, hothers, rfl⟩
    · exact ih h
    · have hchange : changeOf? storage (column, op) = some ⟨column, steps⟩ := by
        simp [changeOf?, hsteps, Except.toOption]
      rw [List.filterMap_cons, hchange, ← ih hothers]

/-- **Another order of entries makes the same changes in another order.** -/
theorem changes_perm {u' : Update} {made made' : List Change} (hperm : o.Perm o')
    (hcolumns : (o.map fun e => columnOf e.1).Nodup) (hu : ofObject schema o = .ok u)
    (hu' : ofObject schema o' = .ok u') (hmade : u.changes schema = .ok made)
    (hmade' : u'.changes schema = .ok made') :
    made.Perm made' ∧ (made.map Change.column).Nodup := by
  have hcolumns' : (o'.map fun e => columnOf e.1).Nodup := (hperm.map _).nodup_iff.1 hcolumns
  have hdistinct : ((inOrder o).map fun e => columnOf e.1).Nodup :=
    ((inOrder_perm o).map _).nodup_iff.2 hcolumns
  have hentries : (inOrder o).Perm (inOrder o') :=
    (inOrder_perm o).trans (hperm.trans (inOrder_perm o').symm)
  rw [changesIn_eq hmade, changesIn_eq hmade', ofObject_eq_map hcolumns hu,
    ofObject_eq_map hcolumns' hu']
  refine ⟨(hentries.map _).filterMap _, ?_⟩
  -- changes are of the columns of their entries, so these are distinct too
  have hpairs : ((inOrder o).map fun e => (columnOf e.1, operatorOf schema.storage e)).Pairwise
      fun x y => x.1 ≠ y.1 := List.pairwise_map.2 (List.pairwise_map.1 hdistinct)
  refine List.pairwise_map.2 (hpairs.filterMap _ fun x y hne a ha b hb => ?_)
  rw [column_of_changeOf? ha, column_of_changeOf? hb]
  exact hne

end Update

end DocStore
