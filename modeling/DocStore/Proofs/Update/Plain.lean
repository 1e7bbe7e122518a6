import DocStore.Proofs.Row.Plain
import DocStore.Proofs.Update.Slots

/-!
# Keys that updates write

What an update writes into JSON columns is known from its entries one by one (`Update.writesOf`):
JSON documents and new members, at paths inside the columns.  Nothing else is written, and nothing
of it is lost (`Update.writes_ofObject`).  The items that an update removes are counted as written,
because they are documents in its assignments too.

Rows have plain keys, because they are checked.  Updates are not, and have plain keys if and only if
all that their entries write has (`Update.isPlain_written`); reserved keys get into a column
(`Update.not_isPlain_written`).
-/

namespace DocStore

open Sql

/-- What is written at a path inside a column: a document, or only the members on the path. -/
structure Written where
  path : List String
  document : Option Json

/-- No name on the path is reserved, and no key in the document. -/
structure Written.IsPlain (w : Written) : Prop where
  path : ∀ name ∈ w.path, Key.isReserved name = false
  document : ∀ v ∈ w.document, v.IsPlain

@[simp] theorem Written.isPlain_mk {path : List String} {document : Option Json} :
    (Written.mk path document).IsPlain ↔
      (∀ name ∈ path, Key.isReserved name = false) ∧ ∀ v ∈ document, v.IsPlain :=
  ⟨fun h => ⟨h.path, h.document⟩, fun h => ⟨h.1, h.2⟩⟩

instance (w : Written) : Decidable w.IsPlain := decidable_of_iff' _ Written.isPlain_mk

namespace Step

/-- The paths of the members that a step makes. -/
def madePaths : Step → List (List String)
  | .addMembers amounts => amounts.map Prod.fst
  | .setMembers values => values.map Prod.fst
  | .setProviders entries => entries.map fun e => [e.1]
  | .put _ | .increment _ | .append _ | .appendUnique _ | .remove _ | .removeMembers _ => []

/-- The documents that a step gets have plain keys, and so have the members that it makes. -/
structure IsPlain (s : Step) : Prop where
  documents : ∀ p ∈ s.params, p.IsPlain
  members : ∀ path ∈ s.madePaths, ∀ name ∈ path, Key.isReserved name = false

/-- What a step writes. -/
def writes : Step → List Written
  | .put (.json v) => [⟨[], some v⟩]
  | .append items | .remove items => items.map fun v => ⟨[], some v⟩
  | .appendUnique item => [⟨[], some item⟩]
  | .addMembers amounts => amounts.map fun e => ⟨e.1, none⟩
  | .setMembers values => values.map fun e => ⟨e.1, some e.2⟩
  | .setProviders entries => entries.map fun e => ⟨[e.1], e.2⟩
  | .put _ | .increment _ | .removeMembers _ => []

/-- A path is no document. -/
@[simp] theorem isPlain_pathParam (path : List String) : (pathParam path).IsPlain := trivial

/-- **A step is plain if all that it writes is.** -/
theorem isPlain_iff (s : Step) : s.IsPlain ↔ ∀ w ∈ s.writes, w.IsPlain := by
  have hsplit : s.IsPlain ↔ (∀ p ∈ s.params, p.IsPlain) ∧
      ∀ path ∈ s.madePaths, ∀ name ∈ path, Key.isReserved name = false :=
    ⟨fun h => ⟨h.documents, h.members⟩, fun h => ⟨h.1, h.2⟩⟩
  rw [hsplit]
  cases s with
  | put e => cases e <;> simp [params, Expression.params, madePaths, writes]
  | increment | append | remove | appendUnique | removeMembers =>
    simp [params, madePaths, writes, Json.isPlain_arr]
  | addMembers amounts | setMembers values =>
    simp only [params, madePaths, writes, List.forall_mem_append, List.forall_mem_map,
      List.forall_mem_flatMap, List.forall_mem_cons]
    simp [forall_and, and_comm]
  | setProviders entries =>
    simp only [params, madePaths, writes, providerParams, List.forall_mem_map,
      List.forall_mem_flatMap, List.forall_mem_cons]
    simp [forall_and, and_comm]

end Step

namespace Update

/-! ### What operators write -/

/-- A value that is set as a JSON document. -/
def isDocument (operand : Json) : Bool := operand.isArray || operand.typeTag? == some "Bytes"

end Update

/-- What a patch writes. -/
def Patch.writes (p : Patch) : List Written :=
  (p.increments.map fun e => ⟨e.1, none⟩) ++ (p.sets.map fun e => ⟨e.1, some e.2⟩) ++
    p.whole.toList.map fun v => ⟨[], some v⟩

/-- What a change of a patch writes. -/
def Patch.Part.writes : Patch.Part → List Written
  | .delete _ => []
  | .increment path _ => [⟨path, none⟩]
  | .set path value => [⟨path, some value⟩]
  | .whole value => [⟨[], some value⟩]

/-- What an operator writes. -/
def Operator.writes : Operator → List Written
  | .set operand => if Update.isDocument operand then [⟨[], some operand⟩] else []
  | .append items | .appendUnique items | .remove items => items.map fun v => ⟨[], some v⟩
  | .patch changes => changes.writes
  | .providers entries => entries.map fun e => ⟨[e.1], e.2⟩
  | .clear | .increment _ | .relation => []

namespace Update

/-- What a contribution writes. -/
def Contribution.writes : Contribution → List Written
  | .part change => change.writes
  | .providers entries => entries.map fun e => ⟨[e.1], e.2⟩
  | .operator op => op.writes

/-! ### What entries write -/

/-- The items of an array operator. -/
def itemsOf (operand : Json) : List Json :=
  match operand.opTag? with
  | some "Add" | some "AddUnique" | some "Remove" =>
    ((operand.get? "objects").bind Json.asArray?).getD []
  | _ => []

/-- What the operand of a key without dots writes. -/
def plainWrites (key : String) (type : Option FieldType) (operand : Json) : List Written :=
  if operand.isNull || type.any FieldType.isRelation then []
  else if operand.opTag?.isSome then (itemsOf operand).map fun v => ⟨[], some v⟩
  else if operand.typeTag? = some "Relation" then []
  else if key = "authData" ∧ operand.isObject then
    (operand.asObject?.getD []).map fun e => ⟨[e.1], providerValue e.2⟩
  else if isDocument operand ∨
      (operand.isObject ∧ operand.typeTag? = none ∧ type = some .object) then
    [⟨[], some operand⟩]
  else []

/-- What the operand of a dotted key writes. -/
def nestedWrites (path : List String) (operand : Json) : List Written :=
  match operand.opTag? with
  | some "Increment" => [⟨path, none⟩]
  | some _ => []
  | none => [⟨path, some operand⟩]

/-- What an entry of an update writes into its column. -/
def writesOf (storage : ClassSchema) (e : String × Json) : List Written :=
  match Key.provider? e.1, (Key.split e.1).2 with
  | some provider, _ => [⟨[provider], providerValue e.2⟩]
  | none, [] => plainWrites e.1 (storage.fieldType? e.1) e.2
  | none, path => nestedWrites path e.2

variable {schema storage : ClassSchema} {u w : Update} {e : String × Json} {o : Object}
  {c : Contribution} {key column : String} {operand : Json}

theorem objects_eq_ok {items : List Json} (h : objects key operand = .ok items) :
    (operand.get? "objects").bind Json.asArray? = some items := by
  unfold objects at h
  split at h
  · next hitems =>
    cases h
    exact hitems
  · cases h

theorem writes_of_readOperator {name : String} {type : Option FieldType} {op : Operator}
    (htag : operand.opTag? = some name) (h : readOperator key name type operand = .ok op) :
    op.writes = (itemsOf operand).map fun v => ⟨[], some v⟩ := by
  unfold readOperator at h
  unfold itemsOf
  rw [htag]
  split at h
  · cases h
  · split at h
    case h_1 | h_6 | h_7 =>
      cases h
      rfl
    case h_2 =>
      obtain ⟨amount, -, rfl⟩ := Result.map_eq_ok.1 h
      rfl
    case h_3 | h_4 | h_5 =>
      obtain ⟨items, hitems, rfl⟩ := Result.map_eq_ok.1 h
      simp [Operator.writes, objects_eq_ok hitems]
    case h_8 => cases h

/-- An operand of a key without dots writes what it says. -/
theorem writes_of_reads {type : Option FieldType} {read : Option Operator}
    (h : Reads key type operand read) :
    (plainContribution operand read).writes = plainWrites key type operand := by
  unfold plainWrites
  cases h with
  | null hnull => simp [hnull, Json.isNull, plainContribution, Contribution.writes, Operator.writes]
  | ofRelation hnull htype => simp [htype, plainContribution, Contribution.writes, Operator.writes]
  | operator htype htag hop =>
    have hnull : operand.isNull = false := by
      cases operand <;> first | rfl | cases htag
    rw [plainContribution_of_column (slot_of_readOperator hop), Contribution.writes,
      writes_of_readOperator htag hop]
    simp [hnull, htype, htag]
  | relation htype htag hrelation =>
    simp [htype, htag, hrelation, plainContribution, Contribution.writes, Operator.writes]
  | providers htype htag hrelation hkey hobject =>
    subst hobject
    simp [htype, htag, hrelation, hkey, plainContribution, Contribution.writes, Json.isNull,
      Json.isObject, Json.asObject?]
  | whole htag hkey hobject hplain htype =>
    have hnull : operand.isNull = false := by
      cases operand <;> first | rfl | cases hobject
    simp [hnull, htag, hkey, hobject, hplain, htype, plainContribution, Contribution.writes,
      Patch.Part.writes, FieldType.isRelation]
  | set hnull htype htag hrelation hvalue =>
    have hkey : ¬ (key = "authData" ∧ operand.isObject = true) := fun h => (hvalue h.2).1 h.1
    have hwhole : ¬ (operand.isObject = true ∧ operand.typeTag? = none ∧ type = some .object) :=
      fun h => (hvalue h.1).2 h.2
    rw [ne_eq, ← Json.isNull_iff, Bool.not_eq_true] at hnull
    simp [hnull, htype, htag, hrelation, hkey, hwhole, plainContribution, Contribution.writes,
      Operator.writes]

theorem writes_of_nestedPart {path : List String} {change : Patch.Part}
    (h : nestedPart key path operand = .ok change) : change.writes = nestedWrites path operand := by
  unfold nestedPart at h
  unfold nestedWrites
  split at h
  · next htag =>
    cases h
    rw [htag]
    rfl
  · next htag =>
    obtain ⟨amount, -, rfl⟩ := Result.map_eq_ok.1 h
    rw [htag]
    rfl
  · cases h
  · next htag =>
    cases h
    rw [htag]
    rfl

/-- **A contribution writes what its entry says.** -/
theorem writes_of_contribution (h : contribution storage e = .ok c) :
    c.writes = writesOf storage e := by
  unfold contribution at h
  split at h
  · next provider hprovider =>
    cases h
    simp [writesOf, hprovider, Contribution.writes]
  · next hprovider hpath =>
    obtain ⟨read, hread, rfl⟩ := Result.map_eq_ok.1 h
    rw [writesOf, hprovider, hpath]
    exact writes_of_reads (reads_of_readPlain hread)
  · next hprovider hpath =>
    split at h
    · obtain ⟨change, hchange, rfl⟩ := Result.map_eq_ok.1 h
      rw [Contribution.writes, writes_of_nestedPart hchange]
      unfold writesOf
      split
      · next hsome => simp [hsome] at hprovider
      · next hnil => exact absurd hnil hpath
      · rfl
    · cases h

/-! ### What updates write -/

/-- What an update writes. -/
def writes (u : Update) : List Written := u.flatMap fun x => x.2.writes

theorem writes_of_joined {α : Type} {kind : α → Operator} {fresh : α} {f : α → α}
    {more : List Written} (hfresh : (kind fresh).writes = [])
    (hf : ∀ a, (column, kind a) ∈ u ∨ a = fresh →
      (kind (f a)).writes.Perm ((kind a).writes ++ more))
    (h : Joined kind column fresh f u w) : (writes w).Perm (writes u ++ more) := by
  unfold writes
  cases h with
  | first front a back =>
    have ha := hf a (.inl (List.mem_append_right _ List.mem_cons_self))
    simp only [List.flatMap_append, List.flatMap_cons, List.append_assoc]
    refine List.Perm.append_left _ ((ha.append_right _).trans ?_)
    rw [List.append_assoc]
    exact List.Perm.append_left _ List.perm_append_comm
  | last _ hnone =>
    have hlast := hf fresh (.inr rfl)
    rw [hfresh, List.nil_append] at hlast
    simpa using List.Perm.append_left _ hlast

/-- A change adds what it writes to what its patch writes; there is one whole object at most. -/
theorem writes_addTo_patch {p : Patch} {change : Patch.Part}
    (hwhole : ∀ v, change = .whole v → p.whole = none) :
    (change.addTo p).writes.Perm (p.writes ++ change.writes) := by
  cases change with
  | delete path => simp [Patch.writes, Patch.Part.addTo, Patch.Part.writes]
  | increment path amount =>
    simp only [Patch.writes, Patch.Part.addTo, Patch.Part.writes, List.map_append,
      List.map_singleton, List.append_assoc]
    exact List.Perm.append_left _ (List.perm_append_comm.trans (by simp))
  | set path value =>
    simp only [Patch.writes, Patch.Part.addTo, Patch.Part.writes, List.map_append,
      List.map_singleton, List.append_assoc]
    exact List.Perm.append_left _ (List.Perm.append_left _ List.perm_append_comm)
  | whole value => simp [Patch.writes, Patch.Part.addTo, Patch.Part.writes, hwhole value rfl]

/-- A whole object comes from the key that is the column's name. -/
theorem columnOf_of_whole {v : Json} (h : contribution storage e = .ok (.part (.whole v))) :
    columnOf e.1 = e.1 := by
  unfold contribution at h
  split at h
  · cases h
  · next hprovider hpath => exact columnOf_of_undotted hprovider hpath
  · split at h
    · obtain ⟨change, hchange, heq⟩ := Result.map_eq_ok.1 h
      cases heq
      unfold nestedPart at hchange
      split at hchange
      case h_2 => simp [Result.map_eq_ok] at hchange
      all_goals cases hchange
    · cases h

/-- The whole objects of patches come from keys among the given ones. -/
def WholeFrom (keys : List String) (x : String × Operator) : Prop :=
  ∀ p, x.2 = .patch p → p.whole ≠ none → x.1 ∈ keys

theorem wholeFrom_addTo {keys : List String} (h : contribution storage e = .ok c)
    (hu : ∀ x ∈ u, WholeFrom keys x) :
    ∀ x ∈ c.addTo (columnOf e.1) u, WholeFrom (keys ++ [e.1]) x := by
  have hkept : ∀ x ∈ u, WholeFrom (keys ++ [e.1]) x := fun x hx p hp hwhole =>
    List.mem_append_left _ (hu x hx p hp hwhole)
  cases c with
  | part change =>
    -- the column has the name of the key, or the whole object has been there
    have hjoin : ∀ p, (p.whole ≠ none → columnOf e.1 ∈ keys ++ [e.1]) →
        WholeFrom (keys ++ [e.1]) (columnOf e.1, .patch (change.addTo p)) := by
      rintro p hp _ ⟨⟩ hwhole
      cases change with
      | whole v => simp [columnOf_of_whole h]
      | delete | increment | set => exact hp hwhole
    refine (joined_alterPatch _ _ u).forall_mem (hjoin .empty (absurd rfl)) (fun p hp => ?_) hkept
    exact hjoin p (hp p rfl)
  | providers entries =>
    have hnone : ∀ all, WholeFrom (keys ++ [e.1]) ("authData", .providers all) := by
      rintro all p ⟨⟩
    exact (joined_addProviders entries u).forall_mem (hnone _) (fun _ _ => hnone _) hkept
  | operator op =>
    refine List.forall_mem_append.2 ⟨hkept, List.forall_mem_singleton.2 ?_⟩
    rintro p rfl
    cases (reaches_of_contribution h).operator _ rfl

theorem writes_addTo {keys : List String} (h : contribution storage e = .ok c)
    (hu : ∀ x ∈ u, WholeFrom keys x) (hnew : e.1 ∉ keys) :
    (writes (c.addTo (columnOf e.1) u)).Perm (writes u ++ writesOf storage e) := by
  rw [← writes_of_contribution h]
  cases c with
  | part change =>
    refine writes_of_joined rfl (fun p hp => ?_) (joined_alterPatch _ _ u)
    refine writes_addTo_patch ?_
    rintro v rfl
    rcases hp with hp | rfl
    · by_contra hwhole
      refine hnew ?_
      have hcolumn := hu _ hp p rfl hwhole
      rwa [columnOf_of_whole h] at hcolumn
    · rfl
  | providers entries =>
    refine writes_of_joined rfl (fun old _ => ?_) (joined_addProviders entries u)
    simp [Operator.writes, Contribution.writes]
  | operator op => simp [Contribution.addTo, writes, Contribution.writes]

/-- **An update writes what its entries say**, no more and no less. -/
theorem writes_ofObject (hkeys : o.keys.Nodup) (h : ofObject schema o = .ok u) :
    (writes u).Perm (o.flatMap (writesOf schema.storage)) := by
  have hinOrder : (Object.keys (inOrder o)).Nodup :=
    ((inOrder_perm o).map Prod.fst).nodup_iff.2 hkeys
  have hrun : (writes u).Perm ((inOrder o).flatMap (writesOf schema.storage)) ∧
      ∀ x ∈ u, WholeFrom (Object.keys (inOrder o)) x := by
    refine ofObject_keeps (P := fun before u =>
      (writes u).Perm (before.flatMap (writesOf schema.storage)) ∧
        ∀ x ∈ u, WholeFrom (Object.keys before) x) ⟨.refl _, by simp⟩ ?_ h
    rintro before e c u hbefore hc ⟨hwrites, hwhole⟩
    have hnew : e.1 ∉ Object.keys before := by
      have hnodup := hinOrder.sublist (hbefore.sublist.map Prod.fst)
      rw [List.map_append] at hnodup
      exact fun hmem => List.disjoint_of_nodup_append hnodup hmem (by simp)
    rw [List.flatMap_append, List.flatMap_singleton]
    refine ⟨(writes_addTo hc hwhole hnew).trans (hwrites.append_right _), ?_⟩
    simpa [Object.keys] using wholeFrom_addTo hc hwhole
  exact hrun.1.trans ((inOrder_perm o).flatMap_right _)

/-! ### What is written is plain -/

theorem writes_dateExpression {e : Expression} (h : dateExpression column operand = .ok e) :
    (Step.put e).writes = [] := by
  obtain ⟨text, -, rfl⟩ := Result.map_eq_ok.1 h
  cases text <;> rfl

theorem writes_nameExpression {e : Expression} {name : Option String}
    (h : nameExpression column operand name = .ok e) : (Step.put e).writes = [] := by
  cases name <;> cases h
  rfl

/-- Of the wrapper objects only bytes are set as documents. -/
theorem writes_wrapperExpression {e : Expression} (h : wrapperExpression column operand = .ok e) :
    (Step.put e).writes =
      if operand.typeTag? = some "Bytes" then [⟨[], some operand⟩] else [] := by
  unfold wrapperExpression at h
  split at h
  · next htag => simp [htag, writes_dateExpression h]
  · next htag => simp [htag, writes_nameExpression h]
  · next htag => simp [htag, writes_nameExpression h]
  · next htag =>
    split at h
    · cases h
      simp [htag, Step.writes]
    · cases h
  · next htag =>
    cases h
    simp [htag, Step.writes]
  · cases h

theorem writes_setExpression {e : Expression} {type : Option FieldType}
    (h : setExpression column type operand = .ok e) :
    (Step.put e).writes = (Operator.set operand).writes := by
  unfold setExpression at h
  split at h
  · split at h
    · exact writes_dateExpression h
    · cases h
      rfl
  · cases h
    rfl
  · cases h
    rfl
  · split at h
    · cases h
      rfl
    · cases h
  · rw [writes_wrapperExpression h]
    simp [Operator.writes, isDocument, Json.isArray]
  · cases h

theorem writes_patchSteps (p : Patch) : (patchSteps p).flatMap Step.writes = p.writes := by
  obtain ⟨deletes, increments, sets, whole⟩ := p
  cases deletes <;> cases increments <;> cases sets <;> cases whole <;>
    simp [patchSteps, Patch.writes, Step.writes]

/-- **The assignments of an operator write what it says.** -/
theorem writes_operatorSteps {op : Operator} {steps : List Step}
    (h : operatorSteps storage column op = .ok steps) : steps.flatMap Step.writes = op.writes := by
  cases op with
  | set operand =>
    obtain ⟨e, he, rfl⟩ := Result.map_eq_ok.1 h
    rw [List.flatMap_singleton, writes_setExpression he]
  | patch p =>
    cases h
    exact writes_patchSteps p
  | appendUnique items =>
    cases h
    rw [List.flatMap_map, Operator.writes, List.map_eq_flatMap]
    rfl
  | clear | increment | append | remove | providers | relation =>
    cases h
    simp [Step.writes, Operator.writes]

theorem writes_changesIn {made : List Change} (h : changesIn storage u = .ok made) :
    (made.flatMap fun c => c.steps.flatMap Step.writes) = writes u := by
  induction u generalizing made with
  | nil =>
    cases h
    rfl
  | cons x rest ih =>
    obtain ⟨column, op⟩ := x
    rcases changesIn_cons h with ⟨rfl, h⟩ | ⟨-, steps, others, hsteps, hothers, rfl⟩
    · exact ih h
    · rw [List.flatMap_cons, ih hothers, writes_operatorSteps hsteps]
      rfl

/-- **What is written has plain keys.**  In a row it always has, and in an update if and only if all
that the entries write has. -/
theorem isPlain_written (now : String) (schema : ClassSchema) (hkeys : o.keys.Nodup) :
    (∀ row, EncodedRow.ofObject now schema o = .ok row → ∀ e ∈ row.values, e.2.IsPlain) ∧
    ∀ start s, compile schema o start = .ok s →
      ∃ u made, ofObject schema o = .ok u ∧ u.changes schema = .ok made ∧
        s = (SetClause.ofChanges made).shift (start - 1) ∧
        ((∀ c ∈ made, ∀ step ∈ c.steps, step.IsPlain) ↔
          ∀ e ∈ o, ∀ w ∈ writesOf schema.storage e, w.IsPlain) := by
  refine ⟨fun row h => EncodedRow.isPlain_values h, fun start s h => ?_⟩
  obtain ⟨u, hu, h⟩ := Result.bind_eq_ok.1 h
  obtain ⟨made, hmade, h⟩ := Result.bind_eq_ok.1 h
  refine ⟨u, made, hu, hmade, (Except.ok.inj h).symm, ?_⟩
  have hwrites := writes_changesIn hmade
  calc (∀ c ∈ made, ∀ step ∈ c.steps, step.IsPlain)
      ↔ ∀ c ∈ made, ∀ step ∈ c.steps, ∀ w ∈ step.writes, w.IsPlain := by
        simp only [Step.isPlain_iff]
    _ ↔ ∀ w ∈ writes u, w.IsPlain := by
        rw [← hwrites]
        simp only [List.forall_mem_flatMap]
    _ ↔ ∀ w ∈ o.flatMap (writesOf schema.storage), w.IsPlain :=
        forall_congr' fun w => by rw [(writes_ofObject hkeys hu).mem_iff]
    _ ↔ ∀ e ∈ o, ∀ w ∈ writesOf schema.storage e, w.IsPlain := List.forall_mem_flatMap

/-- A class with columns for objects, arrays and bytes. -/
def archiveSchema : ClassSchema :=
  (((ClassSchema.named "Archive").field "meta" .object).field "tags" .array).field "data" .bytes

/-- An update that writes into each of them. -/
def archiveChange : Object :=
  [("meta.color", .obj [("hex", .str "f00")]), ("_auth_data_phone", .obj [("id", .str "1")]),
    ("tags", .obj [("__op", .str "AddUnique"), ("objects", .arr [.obj [("new", .bool true)]])]),
    ("data", .obj [("__type", .str "Bytes"), ("base64", .str "AA==")])]

theorem isPlain_written_archive :
    archiveChange.keys.Nodup ∧
      ∃ s u made, compile archiveSchema archiveChange 1 = .ok s ∧
        ofObject archiveSchema archiveChange = .ok u ∧ u.changes archiveSchema = .ok made ∧
        (∀ c ∈ made, ∀ step ∈ c.steps, step.IsPlain) := by
  have hkeys : archiveChange.keys.Nodup := by decide +kernel
  have hcompiles : (compile archiveSchema archiveChange 1).toBool = true := by decide +kernel
  obtain ⟨s, hs⟩ : ∃ s, compile archiveSchema archiveChange 1 = .ok s := by
    cases h : compile archiveSchema archiveChange 1 with
    | error fault => simp [h, Except.toBool] at hcompiles
    | ok s => exact ⟨s, rfl⟩
  obtain ⟨u, made, hu, hmade, -, hplain⟩ :=
    (isPlain_written "" archiveSchema hkeys).2 1 s hs
  exact ⟨hkeys, s, u, made, hs, hu, hmade, hplain.2 (by decide +kernel)⟩

/-- An object with a reserved key, which is no document. -/
def reserved : Json := .obj [("$bad", .num (.int 1))]

/-- Objects, items and members with reserved keys are refused in a row and written by an update. -/
theorem not_isPlain_written :
    EncodedRow.ofObject "" archiveSchema [("meta", reserved)] = .error (.invalidNestedKey "$bad") ∧
      compile archiveSchema [("meta", reserved)] 1 =
        .ok ⟨[sql [.slot 1, " = ", sql ["CAST(", .slot 2, " AS JSON)"]]],
          [.ident "meta", .json reserved]⟩ ∧
      (compile archiveSchema [("meta.$bad", .num (.int 1))] 1).map SetClause.params =
        .ok [.ident "meta", .text "$.\"$bad\"", .json (.num (.int 1))] ∧
      ¬ ∀ schema o start s, o.keys.Nodup → compile schema o start = .ok s →
        ∀ p ∈ s.params, p.IsPlain := by
  have hcompile : compile archiveSchema [("meta", reserved)] 1 =
      .ok ⟨[sql [.slot 1, " = ", sql ["CAST(", .slot 2, " AS JSON)"]]],
        [.ident "meta", .json reserved]⟩ := by decide +kernel
  refine ⟨by decide +kernel, hcompile, by decide +kernel, fun hall => ?_⟩
  have hplain : reserved.IsPlain :=
    hall _ _ _ _ (by decide +kernel) hcompile (.json reserved) (by simp)
  exact absurd hplain (by decide +kernel)

end Update

end DocStore
