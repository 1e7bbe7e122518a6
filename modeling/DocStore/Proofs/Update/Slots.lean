import DocStore.Proofs.Document.Keys
import DocStore.Proofs.Update.Contributions

/-!
# Columns with several operators

What an update does to one column is kept in up to three slots: the patch of its members, the list
of its providers, and the operator of the key that is the column's own name.  The entries of an
update fill the slots that they address, each once, whatever the order of the entries
(`Update.slots_ofObject`).

So an update has one operator for each column if and only if no two of its entries address two slots
of one column (`Update.nodup_columns_iff`).  Nothing keeps entries from doing so, and a column can
get two operators (`Update.not_nodup_columns`).
-/

namespace DocStore

namespace Update

/-- The places for what is done to one column. -/
inductive Slot where
  /-- The patch of the column's members. -/
  | members
  | providers
  /-- The operator that is read from the column's own name. -/
  | column
  deriving DecidableEq, Repr

/-- The slot that an operator stands in. -/
def Slot.ofOperator : Operator → Slot
  | .patch _ => .members
  | .providers _ => .providers
  | .set _ | .clear | .increment _ | .append _ | .appendUnique _ | .remove _ | .relation => .column

/-- The operand of a key without dots is an object that is taken as it stands: the field is no
relation, and the operand names neither an operator nor a relation. -/
def isTakenAsObject (type : Option FieldType) (operand : Json) : Bool :=
  operand.isObject && !type.any FieldType.isRelation && operand.opTag?.isNone &&
    operand.typeTag? != some "Relation"

/-- The slot that an entry addresses.  Provider keys and objects under `authData` list providers;
dotted keys and objects without a type, in fields for objects, change members. -/
def slotOf (storage : ClassSchema) (e : String × Json) : Slot :=
  if (Key.provider? e.1).isSome then .providers
  else if (Key.split e.1).2 ≠ [] then .members
  else if isTakenAsObject (storage.fieldType? e.1) e.2 then
    if e.1 = "authData" then .providers
    else if e.2.typeTag? = none ∧ storage.fieldType? e.1 = some .object then .members
    else .column
  else .column

/-- The column and the slot that an entry addresses. -/
def address (storage : ClassSchema) (e : String × Json) : String × Slot :=
  (columnOf e.1, slotOf storage e)

/-- The slots that are filled, in the order of the operators. -/
def slots (u : Update) : List (String × Slot) := u.map fun x => (x.1, Slot.ofOperator x.2)

variable {schema storage : ClassSchema} {u w : Update} {e : String × Json} {o : Object}
  {c : Contribution}

/-! ### Filling slots -/

/-- A list with an element that is put at its end if it is missing. -/
def filled (x : String × Slot) (l : List (String × Slot)) : List (String × Slot) :=
  if x ∈ l then l else l ++ [x]

theorem mem_filled {x y : String × Slot} {l : List (String × Slot)} :
    y ∈ filled x l ↔ y ∈ l ∨ y = x := by
  unfold filled
  split
  · next hx =>
    refine ⟨.inl, ?_⟩
    rintro (hy | rfl)
    · exact hy
    · exact hx
  · simp

theorem nodup_filled {x : String × Slot} {l : List (String × Slot)} (h : l.Nodup) :
    (filled x l).Nodup := by
  unfold filled
  split
  · exact h
  · next hx =>
    refine List.nodup_append.2 ⟨h, List.nodup_singleton x, fun y hy z hz heq => hx ?_⟩
    rwa [← List.mem_singleton.1 hz, ← heq]

/-- An operator that is joined fills the slot of its kind. -/
theorem slots_of_joined {α : Type} {kind : α → Operator} {column : String} {fresh : α} {f : α → α}
    {slot : Slot} (hkind : ∀ op, Slot.ofOperator op = slot ↔ ∃ a, op = kind a)
    (h : Joined kind column fresh f u w) : slots w = filled (column, slot) (slots u) := by
  have hslot : ∀ a, Slot.ofOperator (kind a) = slot := fun a => (hkind _).2 ⟨a, rfl⟩
  cases h with
  | first front a back => simp [slots, filled, hslot]
  | last _ hnone =>
    have hfree : (column, slot) ∉ slots u := by
      intro hin
      obtain ⟨⟨name, op⟩, hx, heq⟩ := List.mem_map.1 hin
      obtain ⟨rfl, hop⟩ := Prod.mk.inj heq
      obtain ⟨a, rfl⟩ := (hkind op).1 hop
      exact hnone a hx
    rw [filled, if_neg hfree]
    simp [slots, hslot]

theorem slots_alterPatch (f : Patch → Patch) (column : String) (u : Update) :
    slots (alterPatch f column u) = filled (column, .members) (slots u) :=
  slots_of_joined (fun op => by cases op <;> simp [Slot.ofOperator]) (joined_alterPatch f column u)

theorem slots_addProviders (entries : List (String × Option Json)) (u : Update) :
    slots (addProviders entries u) = filled ("authData", .providers) (slots u) :=
  slots_of_joined (fun op => by cases op <;> simp [Slot.ofOperator]) (joined_addProviders entries u)

/-! ### The slot of a contribution -/

/-- The slot that a contribution goes to. -/
def Contribution.slot : Contribution → Slot
  | .part _ => .members
  | .providers _ => .providers
  | .operator _ => .column

/-- The contribution of an entry goes to the slot that the entry addresses. -/
structure Contribution.Reaches (c : Contribution) (storage : ClassSchema) (e : String × Json) :
    Prop where
  slot : c.slot = slotOf storage e
  providers : c.slot = .providers → columnOf e.1 = "authData"
  operator : ∀ op, c = .operator op → Slot.ofOperator op = .column

theorem Contribution.reaches_part (change : Patch.Part) (h : slotOf storage e = .members) :
    (Contribution.part change).Reaches storage e where
  slot := h.symm
  providers hslot := by cases hslot
  operator op heq := by cases heq

theorem Contribution.reaches_providers (entries : List (String × Option Json))
    (h : slotOf storage e = .providers) (hcolumn : columnOf e.1 = "authData") :
    (Contribution.providers entries).Reaches storage e where
  slot := h.symm
  providers _ := hcolumn
  operator op heq := by cases heq

theorem Contribution.reaches_operator {op : Operator} (h : slotOf storage e = .column)
    (hop : Slot.ofOperator op = .column) : (Contribution.operator op).Reaches storage e where
  slot := h.symm
  providers hslot := by cases hslot
  operator _ heq := by
    cases heq
    exact hop

theorem slot_of_readOperator {key name : String} {type : Option FieldType} {operand : Json}
    {op : Operator} (h : readOperator key name type operand = .ok op) :
    Slot.ofOperator op = .column := by
  unfold readOperator at h
  split at h
  · cases h
  · split at h
    all_goals first
      | (obtain ⟨x, -, rfl⟩ := Result.map_eq_ok.1 h; rfl)
      | (cases h; rfl)
      | cases h

/-- An operator in the slot of the column's own key is contributed as it is. -/
theorem plainContribution_of_column {operand : Json} {op : Operator}
    (h : Slot.ofOperator op = .column) : plainContribution operand (some op) = .operator op := by
  cases op with
  | patch | providers => cases h
  | set | clear | increment | append | appendUnique | remove | relation => rfl

theorem isTakenAsObject_eq_false {type : Option FieldType} {operand : Json}
    (h : operand = .null ∨ type.any FieldType.isRelation = true ∨ operand.opTag? ≠ none ∨
      operand.typeTag? = some "Relation") : isTakenAsObject type operand = false := by
  unfold isTakenAsObject
  rcases h with rfl | h | h | h
  · rfl
  · simp [h]
  · simp [h]
  · simp [h]

theorem slotOf_of_undotted {key : String} {operand : Json} (hprovider : Key.provider? key = none)
    (hundotted : (Key.split key).2 = []) :
    slotOf storage (key, operand) =
      if isTakenAsObject (storage.fieldType? key) operand then
        if key = "authData" then .providers
        else if operand.typeTag? = none ∧ storage.fieldType? key = some .object then .members
        else .column
      else .column := by
  simp [slotOf, hprovider, hundotted]

/-- A key without dots contributes to the slot that it addresses. -/
theorem reaches_of_reads {key : String} {operand : Json} {read : Option Operator}
    (hprovider : Key.provider? key = none) (hundotted : (Key.split key).2 = [])
    (h : Reads key (storage.fieldType? key) operand read) :
    (plainContribution operand read).Reaches storage (key, operand) := by
  have hcolumn : columnOf key = key := columnOf_of_undotted hprovider hundotted
  have hnotTaken : isTakenAsObject (storage.fieldType? key) operand = false →
      slotOf storage (key, operand) = .column := by
    intro hnot
    rw [slotOf_of_undotted hprovider hundotted, hnot]
    rfl
  -- an operator of the column's own
  have hown : ∀ op, Slot.ofOperator op = .column → slotOf storage (key, operand) = .column →
      (plainContribution operand (some op)).Reaches storage (key, operand) := by
    intro op hop hslot
    rw [plainContribution_of_column hop]
    exact Contribution.reaches_operator hslot hop
  cases h with
  | null hnull => exact hown _ rfl (hnotTaken (isTakenAsObject_eq_false (.inl hnull)))
  | ofRelation hnull htype =>
    exact hown _ rfl (hnotTaken (isTakenAsObject_eq_false (.inr (.inl htype))))
  | operator htype htag hop =>
    have htagged : operand.opTag? ≠ none := by simp [htag]
    exact hown _ (slot_of_readOperator hop)
      (hnotTaken (isTakenAsObject_eq_false (.inr (.inr (.inl htagged)))))
  | relation htype htag hrelation =>
    exact hown _ rfl (hnotTaken (isTakenAsObject_eq_false (.inr (.inr (.inr hrelation)))))
  | providers htype htag hrelation hkey hobject =>
    have htaken : isTakenAsObject (storage.fieldType? key) operand = true := by
      subst hobject
      simp [isTakenAsObject, Json.isObject, htype, htag, hrelation]
    refine Contribution.reaches_providers _ ?_ (hcolumn.trans hkey)
    rw [slotOf_of_undotted hprovider hundotted, if_pos htaken, if_pos hkey]
  | whole htag hkey hobject hplain htype =>
    have htaken : isTakenAsObject (storage.fieldType? key) operand = true := by
      simp [isTakenAsObject, hobject, htype, htag, hplain, FieldType.isRelation]
    refine Contribution.reaches_part _ ?_
    rw [slotOf_of_undotted hprovider hundotted, if_pos htaken, if_neg hkey,
      if_pos ⟨hplain, htype⟩]
  | set hnull htype htag hrelation hvalue =>
    refine hown _ rfl ?_
    cases hobject : operand.isObject with
    | false => exact hnotTaken (by simp [isTakenAsObject, hobject])
    | true =>
      obtain ⟨hkey, htyped⟩ := hvalue hobject
      rw [slotOf_of_undotted hprovider hundotted, if_neg hkey, if_neg htyped, ite_self]

/-- **A contribution goes to the slot that its entry addresses.** -/
theorem reaches_of_contribution (h : contribution storage e = .ok c) : c.Reaches storage e := by
  obtain ⟨key, operand⟩ := e
  unfold contribution at h
  split at h
  · next provider hprovider =>
    cases h
    dsimp only at hprovider
    refine Contribution.reaches_providers _ ?_ ?_
    · simp [slotOf, hprovider]
    · simp [columnOf, hprovider]
  · next hprovider hundotted =>
    obtain ⟨read, hread, rfl⟩ := Result.map_eq_ok.1 h
    exact reaches_of_reads hprovider hundotted (reads_of_readPlain hread)
  · next hprovider hdotted =>
    split at h
    · obtain ⟨change, -, rfl⟩ := Result.map_eq_ok.1 h
      have hpath : (Key.split key).2 ≠ [] := fun hnil => hdotted hnil
      dsimp only at hprovider
      exact Contribution.reaches_part _ (by simp [slotOf, hprovider, hpath])
    · cases h

/-- A column's own slot is addressed by the key of its name. -/
theorem columnOf_of_slotOf (h : slotOf storage e = .column) : columnOf e.1 = e.1 := by
  unfold slotOf at h
  split at h
  · cases h
  · next hprovider =>
    split at h
    · cases h
    · next hpath =>
      exact columnOf_of_undotted (by simpa using hprovider) (not_not.1 hpath)

/-- A contribution fills the slot that its entry addresses. -/
theorem slots_addTo (h : contribution storage e = .ok c)
    (hnew : slotOf storage e = .column → address storage e ∉ slots u) :
    slots (c.addTo (columnOf e.1) u) = filled (address storage e) (slots u) := by
  obtain ⟨hslot, hproviders, hoperator⟩ := reaches_of_contribution h
  unfold address at hnew ⊢
  rw [← hslot] at hnew ⊢
  cases c with
  | part change => exact slots_alterPatch _ _ u
  | providers entries =>
    rw [hproviders rfl]
    exact slots_addProviders entries u
  | operator op =>
    rw [filled, if_neg (hnew rfl)]
    simp [Contribution.addTo, slots, Contribution.slot, hoperator op rfl]

/-! ### Whole updates -/

/-- **The entries of an update fill the slots that they address**, each once. -/
theorem slots_ofObject (hkeys : o.keys.Nodup) (h : ofObject schema o = .ok u) :
    (slots u).Nodup ∧ ∀ x, x ∈ slots u ↔ ∃ e ∈ o, address schema.storage e = x := by
  have hrun : (slots u).Nodup ∧ ∀ x, x ∈ slots u ↔
      ∃ e ∈ inOrder o, address schema.storage e = x := by
    refine ofObject_keeps (P := fun before u => (slots u).Nodup ∧ ∀ x, x ∈ slots u ↔
      ∃ e ∈ before, address schema.storage e = x) ?_ ?_ h
    · simp [slots]
    · rintro before e c u hbefore hc ⟨hnodup, hmem⟩
      -- the keys are distinct, so that no other entry has the column's own key
      have hnew : slotOf schema.storage e = .column → address schema.storage e ∉ slots u := by
        intro hslot hin
        obtain ⟨f, hf, haddress⟩ := (hmem _).1 hin
        obtain ⟨hcolumn, hsame⟩ := Prod.mk.inj haddress
        rw [columnOf_of_slotOf hslot, columnOf_of_slotOf (hsame.trans hslot)] at hcolumn
        have hinOrder : ((inOrder o).map Prod.fst).Nodup :=
          ((inOrder_perm o).map Prod.fst).nodup_iff.2 hkeys
        have hprefix : ((before ++ [e]).map Prod.fst).Nodup :=
          hinOrder.sublist (hbefore.sublist.map Prod.fst)
        rw [List.map_append] at hprefix
        exact List.disjoint_of_nodup_append hprefix (List.mem_map.2 ⟨f, hf, hcolumn⟩) (by simp)
      rw [slots_addTo hc hnew]
      refine ⟨nodup_filled hnodup, fun x => ?_⟩
      rw [mem_filled, hmem]
      simp [or_and_right, exists_or, eq_comm]
  exact ⟨hrun.1, fun x => by simpa only [mem_inOrder] using hrun.2 x⟩

/-- **An update has one operator for each column** if and only if no two of its entries address two
slots of one column. -/
theorem nodup_columns_iff (hkeys : o.keys.Nodup) (h : ofObject schema o = .ok u) :
    (u.map Prod.fst).Nodup ↔ ∀ e ∈ o, ∀ f ∈ o, columnOf e.1 = columnOf f.1 →
      slotOf schema.storage e = slotOf schema.storage f := by
  obtain ⟨hnodup, hmem⟩ := slots_ofObject hkeys h
  have hcolumns : u.map Prod.fst = (slots u).map Prod.fst := by simp [slots]
  rw [hcolumns, List.nodup_map_iff_inj_on hnodup]
  constructor
  · intro hinj e he f hf hcolumn
    have heq := hinj _ ((hmem _).2 ⟨e, he, rfl⟩) _ ((hmem _).2 ⟨f, hf, rfl⟩) hcolumn
    exact congrArg Prod.snd heq
  · intro hslots x hx y hy hcolumn
    obtain ⟨e, he, rfl⟩ := (hmem x).1 hx
    obtain ⟨f, hf, rfl⟩ := (hmem y).1 hy
    exact Prod.ext hcolumn (hslots e he f hf hcolumn)

/-- A class with an object column and a column for providers. -/
def profileSchema : ClassSchema :=
  ((ClassSchema.named "Profile").field "meta" .object).field "name" .string

/-- A change whose provider keys and dotted keys each meet in one slot. -/
def profileChange : Object :=
  [("meta.color", .str "red"), ("authData", .obj [("site", .null)]), ("meta", .obj []),
    ("name", .str "Ann"), ("_auth_data_phone", .obj [("id", .str "1")]), ("meta.size", .null)]

theorem nodup_columns_iff_profile :
    profileChange.keys.Nodup ∧
      ofObject profileSchema profileChange = .ok
        [("authData", .providers [("phone", some (.obj [("id", .str "1")])), ("site", none)]),
          ("meta", .patch ⟨[], [], [(["color"], .str "red"), (["size"], .null)], some (.obj [])⟩),
          ("name", .set (.str "Ann"))] ∧
      ["authData", "meta", "name"].Nodup := by
  have hkeys : profileChange.keys.Nodup := by decide +kernel
  have hread : ofObject profileSchema profileChange = .ok
      [("authData", .providers [("phone", some (.obj [("id", .str "1")])), ("site", none)]),
        ("meta", .patch ⟨[], [], [(["color"], .str "red"), (["size"], .null)], some (.obj [])⟩),
        ("name", .set (.str "Ann"))] := by decide +kernel
  exact ⟨hkeys, hread, (nodup_columns_iff hkeys hread).2 (by decide +kernel)⟩

/-- The column `meta` is cleared and patched, and `authData` gets a provider and is cleared. -/
theorem not_nodup_columns :
    ofObject profileSchema [("meta", .null), ("meta.a", .num (.int 1))] =
        .ok [("meta", .clear), ("meta", .patch ⟨[], [], [(["a"], .num (.int 1))], none⟩)] ∧
      ofObject profileSchema [("authData", .null), ("_auth_data_phone", .obj [])] =
        .ok [("authData", .providers [("phone", some (.obj []))]), ("authData", .clear)] ∧
      ¬ ∀ schema o u, o.keys.Nodup → ofObject schema o = .ok u → (u.map Prod.fst).Nodup := by
  have hmeta : ofObject profileSchema [("meta", .null), ("meta.a", .num (.int 1))] =
      .ok [("meta", .clear), ("meta", .patch ⟨[], [], [(["a"], .num (.int 1))], none⟩)] := by
    decide +kernel
  refine ⟨hmeta, by decide +kernel, fun hall => ?_⟩
  exact absurd (hall _ _ _ (by decide +kernel) hmeta) (by decide +kernel)

end Update

end DocStore
