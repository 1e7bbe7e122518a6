import DocStore.Proofs.Document.Keys
import DocStore.Proofs.Result
import DocStore.Proofs.Update.Joined
import DocStore.Update.Lowering

/-!
# Changes below one column

The entries of an update whose keys are dotted change members of a column.  Those that are about
one column are gathered into one patch in their order (`Update.own_ofObject`), and this patch is all
that the update does to the column (`Update.own_changesIn`).
-/

namespace DocStore

/-- An operator that adds to a number. -/
def Json.isIncrement (v : Json) : Bool := v.opTag? == some "Increment"

/-- The number that an operator adds. -/
def Json.amount (v : Json) : Number :=
  match v.get? "amount" with
  | some (.num n) => n
  | _ => .int 0

/-- The patch that paths with their operands ask for. -/
def Patch.ofEntries (entries : List (List String × Json)) : Patch where
  deletes := (entries.filter fun e => e.2.isDelete).map Prod.fst
  increments := (entries.filter fun e => e.2.isIncrement).map fun e => (e.1, .num e.2.amount)
  sets := entries.filter fun e => e.2.opTag?.isNone
  whole := none

/-- The patch that paths with their operands ask for, if there are any. -/
def Patch.gathered (entries : List (List String × Json)) : Option Patch :=
  if entries.isEmpty then none else some (ofEntries entries)

theorem Patch.gathered_getD (entries : List (List String × Json)) :
    (gathered entries).getD .empty = ofEntries entries := by
  cases entries <;> rfl

namespace Update

/-- The column that a key is about. -/
def columnOf (key : String) : String :=
  match Key.provider? key with
  | some _ => "authData"
  | none => (Key.split key).1

/-- The entries that are about a column, with the paths below it. -/
def entriesOf (column : String) (o : Object) : List (List String × Json) :=
  (o.filter fun e => columnOf e.1 == column).map fun e => ((Key.split e.1).2, e.2)

/-- A key of a member inside a column. -/
def IsDotted (key : String) : Prop := Key.provider? key = none ∧ (Key.split key).2 ≠ []

/-- An operand that a dotted key takes. -/
def IsOperand (v : Json) : Prop :=
  v.opTag? = some "Delete" ∨
    (v.opTag? = some "Increment" ∧ v.get? "amount" = some (.num v.amount)) ∨ v.opTag? = none

variable {storage : ClassSchema} {column key : String} {path : List String} {operand : Json}
  {change : Patch → Patch} {u w : Update} {entries : List (List String × Json)}

theorem amount_eq_ok {n : Json} (h : amount key operand = .ok n) :
    operand.get? "amount" = some (.num operand.amount) ∧ n = .num operand.amount := by
  unfold amount at h
  split at h
  · next m hm =>
    cases h
    simp [Json.amount, hm]
  · cases h

/-- A dotted key adds what it asks for to the end of a patch. -/
theorem readNested_ofEntries (h : readNested key path operand = .ok change)
    (entries : List (List String × Json)) :
    change (.ofEntries entries) = .ofEntries (entries ++ [(path, operand)]) ∧
      IsOperand operand := by
  unfold readNested at h
  split at h
  · next htag =>
    cases h
    refine ⟨?_, .inl htag⟩
    simp [Patch.ofEntries, Json.isDelete, Json.isIncrement, htag]
  · next htag =>
    obtain ⟨n, hn, h⟩ := Result.bind_eq_ok.1 h
    obtain ⟨hamount, rfl⟩ := amount_eq_ok hn
    cases h
    refine ⟨?_, .inr (.inl ⟨htag, hamount⟩)⟩
    simp [Patch.ofEntries, Json.isDelete, Json.isIncrement, htag]
  · cases h
  · next htag =>
    cases h
    refine ⟨?_, .inr (.inr htag)⟩
    simp [Patch.ofEntries, Json.isDelete, Json.isIncrement, htag]

/-! ### Operators of one column -/

/-- The operators of a column. -/
def own (column : String) (u : Update) : Update := u.filter fun e => e.1 == column

/-- At most one patch, as the operators of a column. -/
def only (column : String) (p : Option Patch) : Update :=
  p.toList.map fun p => (column, .patch p)

theorem own_alterPatch {base : Option Patch} (h : own column u = only column base) :
    own column (alterPatch change column u) =
      only column (some (change (base.getD .empty))) := by
  induction u with
  | nil =>
    cases base with
    | none => simp [alterPatch, own, only]
    | some p => simp [own, only] at h
  | cons entry rest ih =>
    obtain ⟨name, operator⟩ := entry
    by_cases hname : name = column
    · subst hname
      cases base with
      | none => simp [own, only] at h
      | some p =>
        simp [own, only] at h
        obtain ⟨rfl, hrest⟩ := h
        simpa [alterPatch, own, only] using hrest
    · have hrest : own column rest = only column base := by simpa [own, hname] using h
      have hskip : alterPatch change column ((name, operator) :: rest) =
          (name, operator) :: alterPatch change column rest := by
        cases operator <;> simp [alterPatch, hname]
      rw [hskip, own, List.filter_cons_of_neg (by simpa using hname)]
      exact ih hrest

/-- Operators that are joined for another column are none of a column's own. -/
theorem own_of_joined_of_ne {α : Type} {kind : α → Operator} {other : String} {fresh : α}
    {f : α → α} (hne : other ≠ column) (h : Joined kind other fresh f u w) :
    own column w = own column u := by
  cases h with
  | first front a back => simp [own, hne]
  | last _ hnone => simp [own, hne]

theorem own_alterPatch_of_ne {other : String} (h : other ≠ column) :
    own column (alterPatch change other u) = own column u :=
  own_of_joined_of_ne h (joined_alterPatch change other u)

theorem own_addProviders_of_ne {providers : List (String × Option Json)}
    (h : "authData" ≠ column) : own column (addProviders providers u) = own column u :=
  own_of_joined_of_ne h (joined_addProviders providers u)

theorem own_append_of_ne {other : String} {operator : Operator} (h : other ≠ column) :
    own column (u ++ [(other, operator)]) = own column u := by
  simp [own, h]

/-! ### Reading -/

/-- A dotted key changes the patch of its column. -/
theorem readEntry_of_isDotted {e : String × Json} (hdotted : IsDotted e.1)
    (h : readEntry storage u e = .ok w) :
    ∃ change, readNested e.1 (Key.split e.1).2 e.2 = .ok change ∧
      w = alterPatch change (columnOf e.1) u := by
  obtain ⟨key, operand⟩ := e
  obtain ⟨hprovider, hpath⟩ := hdotted
  obtain ⟨root, path, hsplit⟩ : ∃ root path, Key.split key = (root, path) := ⟨_, _, rfl⟩
  have hcolumn : columnOf key = root := by simp [columnOf, hprovider, hsplit]
  rw [hcolumn]
  unfold readEntry at h
  simp only [hsplit] at h hpath ⊢
  cases path with
  | nil => exact absurd rfl hpath
  | cons name path =>
    dsimp only at h
    split at h
    · cases h
    · obtain ⟨change, hchange, h⟩ := Result.bind_eq_ok.1 h
      cases h
      exact ⟨change, hchange, rfl⟩

theorem readOperator_ne_providers {operator : String} {type : Option FieldType}
    {providers : List (String × Option Json)} :
    readOperator key operator type operand ≠ .ok (.providers providers) := by
  intro h
  unfold readOperator at h
  split at h
  · cases h
  · split at h
    all_goals first
      | cases h
      | (obtain ⟨x, -, hx⟩ := Result.map_eq_ok.1 h; cases hx)

/-- Only `authData` is read as providers. -/
theorem eq_authData_of_readPlain {type : Option FieldType}
    {providers : List (String × Option Json)}
    (h : readPlain key type operand = .ok (some (.providers providers))) : key = "authData" := by
  unfold readPlain at h
  split at h
  · cases h
  · split at h
    · cases h
    · split at h
      · obtain ⟨x, hx, hsome⟩ := Result.map_eq_ok.1 h
        cases hsome
        exact absurd hx readOperator_ne_providers
      · split at h
        · cases h
        · split at h
          · split at h
            · next hkey => exact hkey
            · split at h <;> cases h
          · cases h

/-- A plain key is one operator of the column that it names. -/
theorem readEntry_of_undotted {e : String × Json} (hundotted : (Key.split e.1).2 = [])
    (h : readEntry storage u e = .ok w) :
    (∃ change, w = alterPatch change e.1 u) ∨ (∃ providers, e.1 = "authData" ∧
      w = addProviders providers u) ∨ ∃ operator, w = u ++ [(e.1, operator)] := by
  obtain ⟨key, operand⟩ := e
  obtain ⟨root, path, hsplit⟩ : ∃ root path, Key.split key = (root, path) := ⟨_, _, rfl⟩
  unfold readEntry at h
  simp only [hsplit] at h hundotted ⊢
  subst hundotted
  obtain ⟨read, hread, h⟩ := Result.bind_eq_ok.1 h
  cases read with
  | none =>
    cases h
    exact .inl ⟨_, rfl⟩
  | some operator =>
    cases operator with
    | providers entries =>
      cases h
      exact .inr (.inl ⟨entries, eq_authData_of_readPlain hread, rfl⟩)
    | set | clear | increment | append | appendUnique | remove | patch | relation =>
      cases h
      exact .inr (.inr ⟨_, rfl⟩)

/-- A key that is about another column leaves the operators of this one alone. -/
theorem own_readEntry_of_ne {e : String × Json} (hprovider : Key.provider? e.1 = none)
    (hcolumn : columnOf e.1 ≠ column) (h : readEntry storage u e = .ok w) :
    own column w = own column u := by
  by_cases hundotted : (Key.split e.1).2 = []
  · have hkey : e.1 ≠ column := by
      rwa [columnOf, hprovider, Key.split_fst_of_undotted hundotted] at hcolumn
    rcases readEntry_of_undotted hundotted h with ⟨change, rfl⟩ | ⟨providers, hauth, rfl⟩ |
      ⟨operator, rfl⟩
    · exact own_alterPatch_of_ne hkey
    · exact own_addProviders_of_ne (hauth ▸ hkey)
    · exact own_append_of_ne hkey
  · obtain ⟨change, -, rfl⟩ := readEntry_of_isDotted ⟨hprovider, hundotted⟩ h
    exact own_alterPatch_of_ne hcolumn

/-- **The entries of a column become one patch.** -/
theorem own_foldlM {o : Object} (hdotted : ∀ e ∈ o, columnOf e.1 = column → IsDotted e.1)
    (hproviders : ∀ e ∈ o, Key.provider? e.1 = none)
    (hu : own column u = only column (Patch.gathered entries))
    (h : o.foldlM (readEntry storage) u = .ok w) :
    own column w = only column (Patch.gathered (entries ++ entriesOf column o)) ∧
      ∀ e ∈ entriesOf column o, IsOperand e.2 := by
  induction o generalizing u entries with
  | nil =>
    cases h
    exact ⟨by simpa [entriesOf] using hu, by simp [entriesOf]⟩
  | cons e o ih =>
    rw [List.foldlM_cons] at h
    obtain ⟨v, hv, h⟩ := Result.bind_eq_ok.1 h
    have hrest := fun e' he' => hdotted e' (List.mem_cons_of_mem _ he')
    have hrest' := fun e' he' => hproviders e' (List.mem_cons_of_mem _ he')
    by_cases hcolumn : columnOf e.1 = column
    · obtain ⟨change, hchange, rfl⟩ :=
        readEntry_of_isDotted (hdotted e List.mem_cons_self hcolumn) hv
      obtain ⟨hadded, hoperand⟩ := readNested_ofEntries hchange entries
      have hv' : own column (alterPatch change (columnOf e.1) u) =
          only column (Patch.gathered (entries ++ [((Key.split e.1).2, e.2)])) := by
        rw [hcolumn, own_alterPatch hu, Patch.gathered_getD, hadded]
        simp [Patch.gathered]
      obtain ⟨hown, hoperands⟩ := ih hrest hrest' hv' h
      have hentries : entriesOf column (e :: o) =
          ((Key.split e.1).2, e.2) :: entriesOf column o := by
        simp [entriesOf, hcolumn]
      rw [hentries]
      refine ⟨by simpa using hown, fun e' he' => ?_⟩
      rcases List.mem_cons.1 he' with rfl | he'
      · exact hoperand
      · exact hoperands e' he'
    · have hskipped : entriesOf column (e :: o) = entriesOf column o := by
        simp [entriesOf, hcolumn]
      rw [hskipped]
      refine ih hrest hrest' ?_ h
      rw [own_readEntry_of_ne (hproviders e List.mem_cons_self) hcolumn hv, hu]

/-- **An update that has only dotted keys for a column has one patch for it, or nothing.** -/
theorem own_ofObject {schema : ClassSchema} {o : Object}
    (hdotted : ∀ e ∈ o, columnOf e.1 = column → IsDotted e.1)
    (h : ofObject schema o = .ok u) :
    own column u = only column (Patch.gathered (entriesOf column o)) ∧
      ∀ e ∈ entriesOf column o, IsOperand e.2 := by
  -- the providers are about another column
  have hprovider : ∀ e ∈ o, ∀ p, Key.provider? e.1 = some p → "authData" ≠ column := by
    intro e he p hp heq
    have hcolumn : columnOf e.1 = column := by simp [columnOf, hp, heq]
    have hnone := (hdotted e he hcolumn).1
    rw [hp] at hnone
    cases hnone
  have hentries : entriesOf column (o.filter fun e => (Key.provider? e.1).isNone) =
      entriesOf column o := by
    unfold entriesOf
    rw [List.filter_filter]
    refine congrArg _ (List.filter_congr fun e he => ?_)
    cases hp : Key.provider? e.1 with
    | none => simp
    | some p => simp [columnOf, hp, hprovider e he p hp]
  rw [← hentries, ← List.nil_append (entriesOf column _)]
  refine own_foldlM (fun e he => hdotted e (List.mem_filter.1 he).1)
    (fun e he => by simpa using (List.mem_filter.1 he).2) ?_ h
  · split
    · rfl
    · next hsome =>
      obtain ⟨x, hx⟩ := List.exists_mem_of_ne_nil _ fun hnil => hsome (List.isEmpty_iff.2 hnil)
      obtain ⟨e, he, hx⟩ := List.mem_filterMap.1 hx
      obtain ⟨p, hp, -⟩ := Option.map_eq_some_iff.1 hx
      simp [own, only, Patch.gathered, hprovider e he p hp]

/-- An operator about a relation is passed over; any other makes the change of its column. -/
theorem changesIn_cons {op : Operator} {made : List Change}
    (h : changesIn storage ((column, op) :: u) = .ok made) :
    (op = .relation ∧ changesIn storage u = .ok made) ∨
      (op ≠ .relation ∧ ∃ steps others, operatorSteps storage column op = .ok steps ∧
        changesIn storage u = .ok others ∧ made = ⟨column, steps⟩ :: others) := by
  by_cases hrelation : op = .relation
  · subst hrelation
    exact .inl ⟨rfl, h⟩
  · rw [changesIn] at h
    · obtain ⟨steps, hsteps, h⟩ := Result.bind_eq_ok.1 h
      obtain ⟨others, hothers, h⟩ := Result.bind_eq_ok.1 h
      cases h
      exact .inr ⟨hrelation, steps, others, hsteps, hothers, rfl⟩
    · exact hrelation

theorem own_changesIn {changes : List Change} {p : Option Patch}
    (hu : own column u = only column p) (h : changesIn storage u = .ok changes) :
    changes.filter (fun c => c.column == column) =
      p.toList.map fun p => ⟨column, patchSteps p⟩ := by
  induction u generalizing changes p with
  | nil =>
    cases h
    cases p with
    | none => rfl
    | some p => simp [own, only] at hu
  | cons entry rest ih =>
    obtain ⟨name, operator⟩ := entry
    by_cases hname : name = column
    · subst hname
      cases p with
      | none => simp [own, only] at hu
      | some p =>
        simp only [own, only, List.filter_cons, beq_self_eq_true, if_true, Option.toList_some,
          List.map_cons, List.map_nil, List.cons.injEq, Prod.mk.injEq, true_and] at hu
        obtain ⟨rfl, hrest⟩ := hu
        obtain ⟨steps, hsteps, h⟩ := Result.bind_eq_ok.1 h
        obtain ⟨others, hothers, h⟩ := Result.bind_eq_ok.1 h
        cases hsteps
        cases h
        have hnone := ih (p := none) hrest hothers
        simpa using hnone
    · have hrest : own column rest = only column p := by simpa [own, hname] using hu
      rcases changesIn_cons h with ⟨-, h⟩ | ⟨-, steps, others, -, hothers, rfl⟩
      · exact ih hrest h
      · rw [List.filter_cons_of_neg (by simpa using hname)]
        exact ih hrest hothers

end Update

end DocStore
