import DocStore.Proofs.Result
import DocStore.Proofs.Update.Joined
import DocStore.Update.Lowering

/-!
# Keys in another order

Whether an update can be compiled is known from its entries alone, one by one
(`Update.exists_compile_iff`): each must be read, and what is read must have its assignments.  So it
can be compiled in any order of its keys (`Update.exists_compile_of_perm`).
-/

namespace DocStore

namespace Update

variable {storage : ClassSchema} {u : Update} {e : String × Json} {o o' : Object}

/-- All operators have their assignments. -/
def AllMade (storage : ClassSchema) (u : Update) : Prop :=
  ∀ x ∈ u, ∃ steps, operatorSteps storage x.1 x.2 = .ok steps

@[simp] theorem allMade_nil : AllMade storage [] := by simp [AllMade]

theorem allMade_cons {x : String × Operator} : AllMade storage (x :: u) ↔
    (∃ steps, operatorSteps storage x.1 x.2 = .ok steps) ∧ AllMade storage u :=
  List.forall_mem_cons

theorem allMade_append {v : Update} :
    AllMade storage (u ++ v) ↔ AllMade storage u ∧ AllMade storage v :=
  List.forall_mem_append

theorem exists_changesIn : (∃ changes, changesIn storage u = .ok changes) ↔ AllMade storage u := by
  induction u with
  | nil => simp [changesIn]
  | cons x rest ih =>
    obtain ⟨column, operator⟩ := x
    rw [allMade_cons, ← ih]
    cases operator with
    | relation => simp [changesIn, operatorSteps]
    | set | clear | increment | append | appendUnique | remove | patch | providers =>
      simp only [changesIn, Result.bind_eq_ok]
      constructor
      · rintro ⟨changes, steps, hsteps, others, hothers, -⟩
        exact ⟨⟨steps, hsteps⟩, others, hothers⟩
      · rintro ⟨⟨steps, hsteps⟩, others, hothers⟩
        exact ⟨_, steps, hsteps, others, hothers, rfl⟩

/-- An operator that is joined makes no difference if operators of its kind always have their
assignments. -/
theorem allMade_of_joined {α : Type} {kind : α → Operator} {column : String} {fresh : α} {f : α → α}
    {w : Update} (hkind : ∀ a, ∃ steps, operatorSteps storage column (kind a) = .ok steps)
    (h : Joined kind column fresh f u w) : AllMade storage w ↔ AllMade storage u := by
  cases h with
  | first front a back => simp [allMade_append, allMade_cons, hkind]
  | last _ hnone => simp [allMade_append, allMade_cons, hkind]

/-- A patch always has its assignments. -/
theorem allMade_alterPatch (change : Patch → Patch) (column : String) :
    AllMade storage (alterPatch change column u) ↔ AllMade storage u :=
  allMade_of_joined (fun _ => ⟨_, rfl⟩) (joined_alterPatch change column u)

theorem allMade_addProviders (providers : List (String × Option Json)) :
    AllMade storage (addProviders providers u) ↔ AllMade storage u :=
  allMade_of_joined (fun _ => ⟨_, rfl⟩) (joined_addProviders providers u)

/-- An entry is read by itself, and what is read has its assignments. -/
def IsMade (storage : ClassSchema) (e : String × Json) : Prop :=
  ∃ u, readEntry storage [] e = .ok u ∧ AllMade storage u

/-- What was read before does not matter to an entry. -/
theorem exists_readEntry_iff : (∃ w, readEntry storage u e = .ok w ∧ AllMade storage w) ↔
    AllMade storage u ∧ IsMade storage e := by
  obtain ⟨key, operand⟩ := e
  obtain ⟨root, path, hsplit⟩ : ∃ root path, Key.split key = (root, path) := ⟨_, _, rfl⟩
  unfold IsMade readEntry
  simp only [hsplit]
  cases path with
  | nil =>
    cases readPlain key (storage.fieldType? key) operand with
    | error fault => simp [bind, Except.bind]
    | ok read =>
      cases read with
      | none => simp [bind, Except.bind, pure, Except.pure, allMade_alterPatch]
      | some operator =>
        cases operator with
        | providers providers =>
          simp [bind, Except.bind, pure, Except.pure, allMade_addProviders]
        | set | clear | increment | append | appendUnique | remove | patch | relation =>
          simp [bind, Except.bind, pure, Except.pure, allMade_append]
  | cons name path =>
    dsimp only
    split
    · simp [unsupported, bind, Except.bind]
    · cases readNested key (name :: path) operand with
      | error fault => simp [bind, Except.bind]
      | ok change => simp [bind, Except.bind, pure, Except.pure, allMade_alterPatch]

theorem exists_foldlM_iff : (∃ w, o.foldlM (readEntry storage) u = .ok w ∧ AllMade storage w) ↔
    AllMade storage u ∧ ∀ e ∈ o, IsMade storage e := by
  induction o generalizing u with
  | nil => simp [pure, Except.pure]
  | cons e o ih =>
    rw [List.foldlM_cons, List.forall_mem_cons, ← and_assoc, ← exists_readEntry_iff]
    simp only [Result.bind_eq_ok]
    constructor
    · rintro ⟨w, ⟨v, hv, hw⟩, hmade⟩
      obtain ⟨hfirst, hrest⟩ := ih.1 ⟨w, hw, hmade⟩
      exact ⟨⟨v, hv, hfirst⟩, hrest⟩
    · rintro ⟨⟨v, hv, hfirst⟩, hrest⟩
      obtain ⟨w, hw, hmade⟩ := ih.2 ⟨hfirst, hrest⟩
      exact ⟨w, ⟨v, hv, hw⟩, hmade⟩

/-- **An update can be compiled if each of its entries can.** -/
theorem exists_compile_iff {schema : ClassSchema} {start : Nat} :
    (∃ s, compile schema o start = .ok s) ↔
      ∀ e ∈ o, Key.provider? e.1 = none → IsMade schema.storage e := by
  have hread : (∃ u, ofObject schema o = .ok u ∧ AllMade schema.storage u) ↔
      ∀ e ∈ o, Key.provider? e.1 = none → IsMade schema.storage e := by
    unfold ofObject
    rw [exists_foldlM_iff, List.forall_mem_filter]
    simp only [Option.isNone_iff_eq_none]
    refine and_iff_right ?_
    split
    · exact allMade_nil
    · exact allMade_cons.2 ⟨⟨_, rfl⟩, allMade_nil⟩
  rw [← hread]
  simp only [compile, changes, Result.bind_eq_ok, ← exists_changesIn]
  constructor
  · rintro ⟨s, u, hu, made, hmade, -⟩
    exact ⟨u, hu, made, hmade⟩
  · rintro ⟨u, hu, made, hmade⟩
    exact ⟨_, u, hu, made, hmade, rfl⟩

theorem exists_compile_of_perm {schema : ClassSchema} {start : Nat} (hperm : o.Perm o')
    (h : ∃ s, compile schema o start = .ok s) : ∃ s, compile schema o' start = .ok s := by
  rw [exists_compile_iff] at h ⊢
  exact fun e he => h e (hperm.mem_iff.2 he)

end Update

end DocStore
