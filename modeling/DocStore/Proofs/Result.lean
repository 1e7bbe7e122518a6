/-!
# Results

How a result that is put together from others comes about: a chain succeeds if and only if every
step does (`Result.bind_eq_ok`), and a list of steps gives one value for each (`Result.mapM_eq_ok`).
-/

namespace DocStore

namespace Result

variable {ε α β : Type} {x : Except ε α}

theorem bind_eq_ok {f : α → Except ε β} {b : β} :
    x >>= f = .ok b ↔ ∃ a, x = .ok a ∧ f a = .ok b := by
  cases x with
  | error e => simp [bind, Except.bind]
  | ok a => simp [bind, Except.bind]

theorem bind_eq_error {f : α → Except ε β} {e : ε} :
    x >>= f = .error e ↔ x = .error e ∨ ∃ a, x = .ok a ∧ f a = .error e := by
  cases x with
  | error e => simp [bind, Except.bind]
  | ok a => simp [bind, Except.bind]

theorem map_eq_ok {f : α → β} {b : β} : x.map f = .ok b ↔ ∃ a, x = .ok a ∧ f a = b := by
  cases x with
  | error e => simp [Except.map]
  | ok a => simp [Except.map]

theorem map_eq_error {f : α → β} {e : ε} : x.map f = .error e ↔ x = .error e := by
  cases x with
  | error e => simp [Except.map]
  | ok a => simp [Except.map]

/-- A step after which a value is only changed. -/
theorem bind_pure (f : α → β) : (x >>= fun a => pure (f a)) = x.map f := by
  cases x <;> rfl

theorem exists_map_eq_ok {f : α → β} : (∃ b, x.map f = .ok b) ↔ ∃ a, x = .ok a := by
  cases x with
  | error e => simp [Except.map]
  | ok a => simp [Except.map]

theorem mapM_cons_eq_ok {f : α → Except ε β} {a : α} {as : List α} {bs : List β} :
    (a :: as).mapM f = .ok bs ↔ ∃ b rest, f a = .ok b ∧ as.mapM f = .ok rest ∧ bs = b :: rest := by
  rw [List.mapM_cons, bind_eq_ok]
  constructor
  · rintro ⟨b, hb, h⟩
    obtain ⟨rest, hrest, h⟩ := bind_eq_ok.1 h
    cases h
    exact ⟨b, rest, hb, hrest, rfl⟩
  · rintro ⟨b, rest, hb, hrest, rfl⟩
    exact ⟨b, hb, bind_eq_ok.2 ⟨rest, hrest, rfl⟩⟩

theorem mapM_eq_ok {f : α → Except ε β} {g : α → β} {as : List α} (h : ∀ a ∈ as, f a = .ok (g a)) :
    as.mapM f = .ok (as.map g) := by
  induction as with
  | nil => rfl
  | cons a rest ih =>
    rw [mapM_cons_eq_ok]
    exact ⟨g a, rest.map g, h a List.mem_cons_self, ih fun b hb => h b (List.mem_cons_of_mem _ hb),
      rfl⟩

theorem exists_of_mem_mapM {f : α → Except ε β} {as : List α} {bs : List β} {a : α}
    (h : as.mapM f = .ok bs) (ha : a ∈ as) : ∃ b, f a = .ok b := by
  induction as generalizing bs with
  | nil => cases ha
  | cons first rest ih =>
    obtain ⟨b, others, hb, hothers, -⟩ := mapM_cons_eq_ok.1 h
    rcases List.mem_cons.1 ha with rfl | ha
    · exact ⟨b, hb⟩
    · exact ih hothers ha

/-- The value of every step is among those of all. -/
theorem mem_of_mem_mapM {f : α → Except ε β} {as : List α} {bs : List β} {a : α} {b : β}
    (h : as.mapM f = .ok bs) (ha : a ∈ as) (hb : f a = .ok b) : b ∈ bs := by
  induction as generalizing bs with
  | nil => cases ha
  | cons first rest ih =>
    obtain ⟨c, others, hc, hothers, rfl⟩ := mapM_cons_eq_ok.1 h
    rcases List.mem_cons.1 ha with rfl | ha
    · rw [hb] at hc
      cases hc
      exact List.mem_cons_self
    · exact List.mem_cons_of_mem _ (ih hothers ha)

/-- A list of steps fails if and only if one of them does. -/
theorem exists_mapM_eq_error {f : α → Except ε β} {as : List α} :
    (∃ e, as.mapM f = .error e) ↔ ∃ a ∈ as, ∃ e, f a = .error e := by
  induction as with
  | nil => simp [pure, Except.pure]
  | cons first rest ih =>
    simp only [List.mem_cons, exists_eq_or_imp, ← ih, List.mapM_cons]
    constructor
    · rintro ⟨e, h⟩
      rcases bind_eq_error.1 h with h | ⟨b, -, h⟩
      · exact .inl ⟨e, h⟩
      · rcases bind_eq_error.1 h with h | ⟨bs, -, h⟩
        · exact .inr ⟨e, h⟩
        · cases h
    · rintro (⟨e, h⟩ | ⟨e, h⟩)
      · exact ⟨e, bind_eq_error.2 (.inl h)⟩
      · cases hfirst : f first with
        | error e' => exact ⟨e', rfl⟩
        | ok b => exact ⟨e, bind_eq_error.2 (.inr ⟨b, rfl, bind_eq_error.2 (.inl h)⟩)⟩

end Result

end DocStore
