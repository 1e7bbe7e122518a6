import DocStore.Proofs.Update.Nested

/-!
# What single entries contribute

An entry of an update contributes to one column, and what it contributes is known from the entry
alone (`Update.contribution`): a change of the column's patch, entries of providers, or an operator
of its own.  An update is read by adding up the contributions of its entries, those of provider keys
first (`Update.ofObject_eq`).  So what adding a contribution keeps holds of every update that is
read (`Update.ofObject_keeps`).
-/

namespace DocStore

/-- One change of a patch. -/
inductive Patch.Part where
  | delete (path : List String)
  | increment (path : List String) (amount : Json)
  | set (path : List String) (value : Json)
  | whole (value : Json)

/-- Add a change to a patch. -/
def Patch.Part.addTo (p : Patch) : Patch.Part → Patch
  | .delete path => { p with deletes := p.deletes ++ [path] }
  | .increment path amount => { p with increments := p.increments ++ [(path, amount)] }
  | .set path value => { p with sets := p.sets ++ [(path, value)] }
  | .whole value => { p with whole := some value }

theorem Json.isNull_iff {v : Json} : v.isNull = true ↔ v = .null := by
  cases v <;> simp [isNull]

theorem Json.isObject_iff {v : Json} : v.isObject = true ↔ ∃ entries, v = .obj entries := by
  cases v <;> simp [isObject]

namespace Update

/-- What an entry adds to the operators of its column. -/
inductive Contribution where
  | part (change : Patch.Part)
  | providers (entries : List (String × Option Json))
  | operator (op : Operator)

/-- The update with a contribution to a column; providers belong to one column only. -/
def Contribution.addTo (column : String) (u : Update) : Contribution → Update
  | .part change => alterPatch (fun p => change.addTo p) column u
  | .providers entries => addProviders entries u
  | .operator op => u ++ [(column, op)]

/-- The change that a dotted key asks for. -/
def nestedPart (key : String) (path : List String) (operand : Json) : Except Fault Patch.Part :=
  match operand.opTag? with
  | some "Delete" => .ok (.delete path)
  | some "Increment" => (amount key operand).map (.increment path)
  | some _ => unsupported key operand
  | none => .ok (.set path operand)

/-- What a key without dots asks for, read as an operator or as a whole object. -/
def plainContribution (operand : Json) : Option Operator → Contribution
  | none => .part (.whole operand)
  | some (.providers entries) => .providers entries
  | some op => .operator op

/-- The contribution of an entry. -/
def contribution (storage : ClassSchema) (e : String × Json) : Except Fault Contribution :=
  match Key.provider? e.1, (Key.split e.1).2 with
  | some provider, _ => .ok (.providers [(provider, providerValue e.2)])
  | none, [] => (readPlain e.1 (storage.fieldType? e.1) e.2).map (plainContribution e.2)
  | none, path =>
    if storage.fieldType? (columnOf e.1) = some .object then
      (nestedPart e.1 path e.2).map .part
    else unsupported e.1 e.2

/-- Add the contribution of an entry. -/
def add (storage : ClassSchema) (u : Update) (e : String × Json) : Except Fault Update :=
  (contribution storage e).map fun c => c.addTo (columnOf e.1) u

variable {storage : ClassSchema} {u w : Update} {e : String × Json} {o : Object} {key : String}
  {path : List String} {operand : Json}

theorem readNested_eq : readNested key path operand =
    (nestedPart key path operand).map fun change => fun p => change.addTo p := by
  unfold readNested nestedPart
  cases operand.opTag? with
  | none => rfl
  | some op =>
    by_cases hdelete : op = "Delete"
    · subst hdelete
      rfl
    · by_cases hincrement : op = "Increment"
      · subst hincrement
        cases amount key operand <;> rfl
      · simp [unsupported, Except.map]

theorem columnOf_of_undotted (hprovider : Key.provider? key = none)
    (hundotted : (Key.split key).2 = []) : columnOf key = key := by
  rw [columnOf, hprovider]
  exact Key.split_fst_of_undotted hundotted

theorem readEntry_eq (hprovider : Key.provider? e.1 = none) (u : Update) :
    readEntry storage u e = add storage u e := by
  obtain ⟨key, operand⟩ := e
  obtain ⟨root, path, hsplit⟩ : ∃ root path, Key.split key = (root, path) := ⟨_, _, rfl⟩
  unfold readEntry add contribution
  simp only [hsplit, hprovider]
  cases path with
  | nil =>
    rw [columnOf_of_undotted hprovider (by rw [hsplit])]
    cases readPlain key (storage.fieldType? key) operand with
    | error fault => rfl
    | ok read =>
      cases read with
      | none => rfl
      | some op => cases op <;> rfl
  | cons name path =>
    have hcolumn : columnOf key = root := by simp [columnOf, hprovider, hsplit]
    dsimp only
    rw [hcolumn, readNested_eq]
    by_cases htype : storage.fieldType? root = some .object
    · simp only [htype, ne_eq, not_true_eq_false, if_false, if_true]
      cases nestedPart key (name :: path) operand <;> rfl
    · simp [htype, unsupported, Except.map, bind, Except.bind]

/-! ### Keys without dots -/

/-- What a key without dots is read as, by its operand and the type of its field.  The first rule
that fits decides, so each also says that those before it do not. -/
inductive Reads (key : String) (type : Option FieldType) (operand : Json) :
    Option Operator → Prop
  | null (hnull : operand = .null) : Reads key type operand (some .clear)
  | ofRelation (hnull : operand ≠ .null) (htype : type.any FieldType.isRelation = true) :
      Reads key type operand (some .relation)
  | operator {name : String} {op : Operator} (htype : type.any FieldType.isRelation = false)
      (htag : operand.opTag? = some name) (hop : readOperator key name type operand = .ok op) :
      Reads key type operand (some op)
  | relation (htype : type.any FieldType.isRelation = false) (htag : operand.opTag? = none)
      (hrelation : operand.typeTag? = some "Relation") : Reads key type operand (some .relation)
  | providers {entries : List (String × Json)} (htype : type.any FieldType.isRelation = false)
      (htag : operand.opTag? = none) (hrelation : operand.typeTag? ≠ some "Relation")
      (hkey : key = "authData") (hobject : operand = .obj entries) :
      Reads key type operand (some (.providers (entries.map fun e => (e.1, providerValue e.2))))
  | whole (htag : operand.opTag? = none) (hkey : key ≠ "authData")
      (hobject : operand.isObject = true) (hplain : operand.typeTag? = none)
      (htype : type = some .object) : Reads key type operand none
  | set (hnull : operand ≠ .null) (htype : type.any FieldType.isRelation = false)
      (htag : operand.opTag? = none) (hrelation : operand.typeTag? ≠ some "Relation")
      (hvalue : operand.isObject = true →
        key ≠ "authData" ∧ ¬ (operand.typeTag? = none ∧ type = some .object)) :
      Reads key type operand (some (.set operand))

theorem reads_of_readPlain {type : Option FieldType} {read : Option Operator}
    (h : readPlain key type operand = .ok read) : Reads key type operand read := by
  unfold readPlain at h
  split at h
  · next hnull =>
    cases h
    exact .null (Json.isNull_iff.1 hnull)
  · next hnull =>
    have hne : operand ≠ .null := fun heq => hnull (Json.isNull_iff.2 heq)
    split at h
    · next htype =>
      cases h
      exact .ofRelation hne htype
    · next htype =>
      rw [Bool.not_eq_true] at htype
      split at h
      · next name htag =>
        obtain ⟨op, hop, rfl⟩ := Result.map_eq_ok.1 h
        exact .operator htype htag hop
      · next htag =>
        split at h
        · next hrelation =>
          cases h
          exact .relation htype htag hrelation
        · next hrelation =>
          split at h
          · next entries =>
            split at h
            · next hkey =>
              cases h
              exact .providers htype htag hrelation hkey rfl
            · next hkey =>
              split at h
              · next hwhole =>
                cases h
                simp only [Bool.and_eq_true, Option.isNone_iff_eq_none, beq_iff_eq] at hwhole
                exact .whole htag hkey rfl hwhole.1 hwhole.2
              · next hvalue =>
                cases h
                simp only [Bool.and_eq_true, Option.isNone_iff_eq_none, beq_iff_eq] at hvalue
                exact .set hne htype htag hrelation fun _ => ⟨hkey, hvalue⟩
          · next hvalue =>
            cases h
            refine .set hne htype htag hrelation fun hobject => ?_
            obtain ⟨entries, hentries⟩ := Json.isObject_iff.1 hobject
            exact (hvalue entries hentries).elim

/-! ### Whole updates -/

/-- The entries in the order in which they are read. -/
def inOrder (o : Object) : Object :=
  (o.filter fun e => (Key.provider? e.1).isSome) ++ o.filter fun e => (Key.provider? e.1).isNone

theorem inOrder_perm (o : Object) : (inOrder o).Perm o := by
  have hnot : (fun e : String × Json => (Key.provider? e.1).isNone) =
      fun e => !(Key.provider? e.1).isSome := by
    funext e
    cases Key.provider? e.1 <;> rfl
  rw [inOrder, hnot]
  exact List.filter_append_perm _ o

theorem mem_inOrder : e ∈ inOrder o ↔ e ∈ o := (inOrder_perm o).mem_iff

/-- The operator that the provider keys become. -/
def providersFirst (entries : List (String × Option Json)) : Update :=
  if entries.isEmpty then [] else [("authData", .providers entries)]

theorem addProviders_first (entries more : List (String × Option Json)) (hmore : more ≠ []) :
    addProviders more (providersFirst entries) = providersFirst (entries ++ more) := by
  cases entries <;> cases more <;> simp_all [providersFirst, addProviders]

/-- The value that an entry under a provider key gives its provider. -/
def providerOf? (e : String × Json) : Option (String × Option Json) :=
  (Key.provider? e.1).map fun p => (p, providerValue e.2)

theorem foldlM_add_providers (h : ∀ e ∈ o, (Key.provider? e.1).isSome = true)
    (entries : List (String × Option Json)) :
    o.foldlM (add storage) (providersFirst entries) =
      .ok (providersFirst (entries ++ o.filterMap providerOf?)) := by
  induction o generalizing entries with
  | nil => simp [pure, Except.pure]
  | cons e rest ih =>
    obtain ⟨p, hp⟩ := Option.isSome_iff_exists.1 (h e List.mem_cons_self)
    have hadd : add storage (providersFirst entries) e =
        .ok (providersFirst (entries ++ [(p, providerValue e.2)])) := by
      rw [← addProviders_first _ _ (List.cons_ne_nil _ _)]
      simp [add, contribution, hp, Except.map, Contribution.addTo]
    rw [List.foldlM_cons, hadd]
    simp only [bind, Except.bind]
    rw [ih fun e' he' => h e' (List.mem_cons_of_mem _ he')]
    simp [providerOf?, hp]

theorem foldlM_add_others (h : ∀ e ∈ o, (Key.provider? e.1).isNone = true) (u : Update) :
    o.foldlM (readEntry storage) u = o.foldlM (add storage) u := by
  induction o generalizing u with
  | nil => rfl
  | cons e rest ih =>
    rw [List.foldlM_cons, List.foldlM_cons,
      readEntry_eq (Option.isNone_iff_eq_none.1 (h e List.mem_cons_self))]
    exact congrArg _ (funext fun w => ih (fun e' he' => h e' (List.mem_cons_of_mem _ he')) w)

/-- **An update is the sum of its entries' contributions.** -/
theorem ofObject_eq (schema : ClassSchema) (o : Object) :
    ofObject schema o = (inOrder o).foldlM (add schema.storage) [] := by
  have hfirst : (o.filter fun e => (Key.provider? e.1).isSome).foldlM (add schema.storage)
      (providersFirst []) = .ok (providersFirst ([] ++
        (o.filter fun e => (Key.provider? e.1).isSome).filterMap providerOf?)) :=
    foldlM_add_providers (fun e he => (List.mem_filter.1 he).2) []
  have hproviders : (o.filter fun e => (Key.provider? e.1).isSome).filterMap providerOf? =
      o.filterMap providerOf? := by
    rw [List.filterMap_filter]
    congr 1
    funext e
    cases hp : Key.provider? e.1 <;> simp [providerOf?, hp]
  rw [hproviders, List.nil_append, show providersFirst [] = [] from rfl] at hfirst
  rw [inOrder, List.foldlM_append, hfirst]
  exact foldlM_add_others (fun e he => (List.mem_filter.1 he).2) _

/-- **What contributions keep.**  A relation between the entries that have been read and the update
so far, if every contribution keeps it, holds of all entries and the whole update. -/
theorem ofObject_keeps {schema : ClassSchema} {P : Object → Update → Prop} (hnil : P [] [])
    (hadd : ∀ before e c u, before ++ [e] <+: inOrder o →
      contribution schema.storage e = .ok c → P before u →
      P (before ++ [e]) (c.addTo (columnOf e.1) u))
    (h : ofObject schema o = .ok u) : P (inOrder o) u := by
  have hrun : ∀ rest before v, before ++ rest = inOrder o → P before v →
      rest.foldlM (add schema.storage) v = .ok u → P (inOrder o) u := by
    intro rest
    induction rest with
    | nil =>
      intro before v hsplit hv hu
      cases hu
      rwa [← hsplit, List.append_nil]
    | cons e rest ih =>
      intro before v hsplit hv hu
      rw [List.foldlM_cons] at hu
      obtain ⟨w, hw, hu⟩ := Result.bind_eq_ok.1 hu
      obtain ⟨c, hc, rfl⟩ := Result.map_eq_ok.1 hw
      have hsplit' : before ++ [e] ++ rest = inOrder o := by simpa using hsplit
      exact ih (before ++ [e]) _ hsplit' (hadd before e c v ⟨rest, hsplit'⟩ hc hv) hu
  exact hrun (inOrder o) [] [] rfl hnil (by rwa [← ofObject_eq])

end Update

end DocStore
