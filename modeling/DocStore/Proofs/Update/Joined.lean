import DocStore.Update.Basic

/-!
# Operators that are joined

A change of a patch, and entries of providers, go to the operator of their kind that the column has,
or become a new one at the end.  Both ways of reading them into an update are cases of one relation
(`Update.Joined`), so that what they keep is said once (`Update.Joined.forall_mem`).
-/

namespace DocStore

namespace Update

variable {u w : Update}

/-- One operator of a kind is changed: the first of a column that is of this kind, or a new one at
the end. -/
inductive Joined {α : Type} (kind : α → Operator) (column : String) (fresh : α) (f : α → α) :
    Update → Update → Prop where
  | first (front : Update) (a : α) (back : Update) :
    Joined kind column fresh f (front ++ (column, kind a) :: back)
      (front ++ (column, kind (f a)) :: back)
  | last (u : Update) (hnone : ∀ a, (column, kind a) ∉ u) :
    Joined kind column fresh f u (u ++ [(column, kind (f fresh))])

/-- An operator of another kind, or of another column, is passed by. -/
theorem Joined.skip {α : Type} {kind : α → Operator} {column : String} {fresh : α} {f : α → α}
    {x : String × Operator} (h : Joined kind column fresh f u w)
    (hne : ∀ a, x ≠ (column, kind a)) : Joined kind column fresh f (x :: u) (x :: w) := by
  cases h with
  | first front a back => exact .first (x :: front) a back
  | last _ hnone =>
    refine .last (x :: u) fun a ha => ?_
    rcases List.mem_cons.1 ha with hx | ha
    · exact hne a hx.symm
    · exact hnone a ha

theorem joined_alterPatch (f : Patch → Patch) (column : String) (u : Update) :
    Joined .patch column .empty f u (alterPatch f column u) := by
  induction u with
  | nil => exact .last [] fun _ => List.not_mem_nil
  | cons x rest ih =>
    obtain ⟨name, op⟩ := x
    cases op with
    | patch p =>
      rw [alterPatch]
      split
      · next hname =>
        subst hname
        exact .first [] p rest
      · next hname => exact ih.skip (by simp [hname])
    | set | clear | increment | append | appendUnique | remove | providers | relation =>
      exact ih.skip (by simp)

theorem joined_addProviders (entries : List (String × Option Json)) (u : Update) :
    Joined .providers "authData" [] (· ++ entries) u (addProviders entries u) := by
  induction u with
  | nil => exact .last [] fun _ => List.not_mem_nil
  | cons x rest ih =>
    obtain ⟨name, op⟩ := x
    cases op with
    | providers old =>
      rw [addProviders]
      split
      · next hname =>
        subst hname
        exact .first [] old rest
      · next hname => exact ih.skip (by simp [hname])
    | set | clear | increment | append | appendUnique | remove | patch | relation =>
      exact ih.skip (by simp)

/-- What all operators have is kept if the changed operator has it. -/
theorem Joined.forall_mem {α : Type} {kind : α → Operator} {column : String} {fresh : α}
    {f : α → α} {Q : String × Operator → Prop} (h : Joined kind column fresh f u w)
    (hfresh : Q (column, kind (f fresh))) (hold : ∀ a, Q (column, kind a) → Q (column, kind (f a)))
    (hu : ∀ x ∈ u, Q x) : ∀ x ∈ w, Q x := by
  cases h with
  | first front a back =>
    rw [List.forall_mem_append, List.forall_mem_cons] at hu ⊢
    exact ⟨hu.1, hold a hu.2.1, hu.2.2⟩
  | last _ hnone =>
    rw [List.forall_mem_append]
    exact ⟨hu, List.forall_mem_singleton.2 hfresh⟩

/-- What every operator of a kind has is kept when one of them is changed or added. -/
theorem Joined.exists_mem_iff {α : Type} {kind : α → Operator} {column : String} {fresh : α}
    {f : α → α} {Q : String × Operator → Prop} (h : Joined kind column fresh f u w)
    (hkind : ∀ a b, Q (column, kind a) ↔ Q (column, kind b)) :
    (∃ x ∈ w, Q x) ↔ (∃ x ∈ u, Q x) ∨ Q (column, kind (f fresh)) := by
  cases h with
  | first front a back =>
    simp only [List.mem_append, List.mem_cons, or_and_right, exists_or, exists_eq_left]
    rw [hkind (f a) a, hkind (f fresh) a]
    exact (or_iff_left_of_imp fun h => .inr (.inl h)).symm
  | last _ hnone =>
    simp only [List.mem_append, List.mem_singleton, or_and_right, exists_or, exists_eq_left]

/-- An operator stays, unless it is the one that is changed. -/
theorem Joined.mem_or {α : Type} {kind : α → Operator} {column : String} {fresh : α} {f : α → α}
    {x : String × Operator} (h : Joined kind column fresh f u w) (hx : x ∈ u) :
    x ∈ w ∨ ∃ a, x = (column, kind a) ∧ (column, kind (f a)) ∈ w := by
  cases h with
  | first front a back =>
    simp only [List.mem_append, List.mem_cons] at hx ⊢
    rcases hx with hx | rfl | hx
    · exact .inl (.inl hx)
    · exact .inr ⟨a, rfl, .inr (.inl rfl)⟩
    · exact .inl (.inr (.inr hx))
  | last _ hnone => exact .inl (List.mem_append_left _ hx)

/-- The operator that is changed is there. -/
theorem Joined.exists_mem {α : Type} {kind : α → Operator} {column : String} {fresh : α}
    {f : α → α} (h : Joined kind column fresh f u w) : ∃ a, (column, kind (f a)) ∈ w := by
  cases h with
  | first front a back => exact ⟨a, by simp⟩
  | last _ hnone => exact ⟨fresh, by simp⟩

end Update

end DocStore
