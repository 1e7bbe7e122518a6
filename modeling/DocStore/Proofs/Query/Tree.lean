import DocStore.Proofs.Query.Structure
import DocStore.Proofs.Result
import DocStore.Query.Lowering

/-!
# Queries as trees of constraints

What a query asks for is a boolean expression over its single constraints, which is read off its
JSON form alone (`Query.tree`): all entries of an object must hold, `$or` and `$and` connect the
queries of a list, and every operator key of a field is a constraint, unless it belongs to the
operator beside it.  The absence of a field that the schema does not know holds.

The condition of a query has that structure (`Query.read_condition`): read as a boolean expression,
it is an expression over one fragment for each constraint, in order, and has the value of the tree
whatever values these have.
-/

namespace DocStore

open Sql

/-! ### Trees -/

/-- One constraint of a query in its JSON form. -/
inductive Leaf where
  /-- The field has this value. -/
  | value (field : String) (v : Json)
  /-- An operator key of a field with its operand, among the entries beside it. -/
  | operator (field : String) (entries : Object) (key : String) (operand : Json)

namespace Leaf

/-- The name of the field. -/
def field : Leaf → String
  | .value field _ => field
  | .operator field _ _ _ => field

/-- The leaf is read as this constraint. -/
def Reads : Leaf → Constraint → Prop
  | .value field v, c => Constraint.readField field v = .ok [c]
  | .operator field entries key operand, c =>
    Constraint.readOperator field entries key operand = .ok (some c)

/-- The leaf comes to a test of its field. -/
def LowersTo (storage : ClassSchema) (leaf : Leaf) (p : Target × Test) : Prop :=
  p.1 = Target.ofName leaf.field ∧
    ∃ c type, leaf.Reads c ∧ storage.fieldType? p.1.column = some type ∧
      c.lower leaf.field (!p.1.isNested && type.isArray) p.1.isNested = .ok p.2

theorem LowersTo.of_lower {storage : ClassSchema} {leaf : Leaf} {c : Constraint}
    {type : FieldType} {test : Test} (hreads : leaf.Reads c)
    (htype : storage.fieldType? (Target.ofName leaf.field).column = some type)
    (hlower : c.lower leaf.field (!(Target.ofName leaf.field).isNested && type.isArray)
      (Target.ofName leaf.field).isNested = .ok test) :
    leaf.LowersTo storage (Target.ofName leaf.field, test) := by
  -- the projections go before the target is opened
  unfold LowersTo
  dsimp only
  exact ⟨rfl, c, type, hreads, htype, hlower⟩

/-- The template is the condition for the leaf alone, wherever its parameters stand. -/
def IsFragment (storage : ClassSchema) (leaf : Leaf) (t : Template) : Prop :=
  ∃ x test n k, leaf.LowersTo storage (x, test) ∧ t = (test.condition (x.text 1) n).shift k

end Leaf

namespace Query

/-- The key belongs to an operator beside it. -/
def isCompanion (entries : Object) (key : String) : Bool :=
  (key == "$options" && entries.contains "$regex") ||
    (key == "$maxDistance" && entries.contains "$nearSphere")

/-- What one operator key of a field asks for. -/
def operatorTree (storage : ClassSchema) (name : String) (entries : Object)
    (e : String × Json) : Expr Leaf :=
  if storage.fieldType? (Target.ofName name).column = none ∧ e = ("$exists", .bool false) then
    .truth
  else .atom (.operator name entries e.1 e.2)

/-- What the given operator keys of a field ask for. -/
def operatorTrees (storage : ClassSchema) (name : String) (entries : Object)
    (operators : List (String × Json)) : List (Expr Leaf) :=
  (operators.filter fun e => !isCompanion entries e.1).map (operatorTree storage name entries)

/-- What the value of a field asks for. -/
def fieldTree (storage : ClassSchema) (name : String) : Json → Expr Leaf
  | .obj entries =>
    if (Json.obj entries).typeTag?.isSome then .atom (.value name (.obj entries))
    else .conj (operatorTrees storage name entries entries)
  | v => .atom (.value name v)

mutual

/-- What a query asks for. -/
def tree (storage : ClassSchema) : Json → Expr Leaf
  | .obj entries => .conj (entryTrees storage entries)
  | _ => .truth

/-- What the entries of a query ask for. -/
def entryTrees (storage : ClassSchema) : List (String × Json) → List (Expr Leaf)
  | [] => []
  | (name, v) :: rest =>
    (if name = "$or" then .disj (itemTrees storage v)
      else if name = "$and" then .conj (itemTrees storage v)
      else fieldTree storage name v) :: entryTrees storage rest

/-- What the queries of a list ask for. -/
def itemTrees (storage : ClassSchema) : Json → List (Expr Leaf)
  | .arr items => queryTrees storage items
  | _ => []

/-- What each of several queries asks for. -/
def queryTrees (storage : ClassSchema) : List Json → List (Expr Leaf)
  | [] => []
  | v :: rest => tree storage v :: queryTrees storage rest

end

end Query

/-! ### Constraints -/

namespace Constraint

variable {name key field : String} {isArray nested : Bool} {c : Constraint} {test : Test}
  {operand : Json} {operands : List Json} {entries : Object}

/-- What equality with a value comes to. -/
theorem lowerEquals_cases (h : lowerEquals name isArray nested operand = .ok test) :
    test = .isNull ∨ test = .holds [operand] ∨ (∃ wkt, test = .atPoint wkt) ∨
      ∃ v, test = .scalar .equal v := by
  unfold lowerEquals at h
  split at h
  · exact .inl (Except.ok.inj h).symm
  · split at h
    · split at h
      · cases h
      · exact .inr (.inl (Except.ok.inj h).symm)
    · split at h
      · obtain ⟨wkt, -, rfl⟩ := Result.map_eq_ok.1 h
        exact .inr (.inr (.inl ⟨wkt, rfl⟩))
      · obtain ⟨v, -, rfl⟩ := Result.map_eq_ok.1 h
        exact .inr (.inr (.inr ⟨v, rfl⟩))

theorem full_lowerEquals (h : lowerEquals name isArray nested operand = .ok test) : test.Full := by
  rcases lowerEquals_cases h with rfl | rfl | ⟨wkt, rfl⟩ | ⟨v, rfl⟩ <;> trivial

theorem full_lowerNotEqual (h : lowerNotEqual name isArray nested operand = .ok test) :
    test.Full := by
  unfold lowerNotEqual at h
  split at h
  · cases h
    trivial
  · split at h
    · cases h
      trivial
    · split at h
      · obtain ⟨wkt, -, rfl⟩ := Result.map_eq_ok.1 h
        trivial
      · obtain ⟨v, -, rfl⟩ := Result.map_eq_ok.1 h
        trivial

theorem full_lowerAmong (h : lowerAmong name isArray nested operands = .ok test) : test.Full := by
  by_cases hitems : ((flatten operands).filter fun v => !v.isNull).isEmpty = true
  · simp only [lowerAmong, if_pos hitems] at h
    cases h
    trivial
  · have hitem : ((flatten operands).filter fun v => !v.isNull) ≠ [] := by simpa using hitems
    cases isArray with
    | true =>
      simp only [lowerAmong, if_neg hitems, if_true] at h
      cases h
      split <;> exact hitem
    | false =>
      simp only [lowerAmong, if_neg hitems, Bool.false_eq_true, if_false] at h
      obtain ⟨inner, hinner, h⟩ := Result.bind_eq_ok.1 h
      obtain ⟨vs, -, rfl⟩ := Result.map_eq_ok.1 hinner
      cases h
      split <;> trivial

theorem full_lowerNotAmong (h : lowerNotAmong name isArray nested operands = .ok test) :
    test.Full := by
  by_cases hitems : ((flatten operands).filter fun v => !v.isNull).isEmpty = true
  · simp only [lowerNotAmong, if_pos hitems] at h
    cases h
    split <;> trivial
  · have hitem : ((flatten operands).filter fun v => !v.isNull) ≠ [] := by simpa using hitems
    cases isArray with
    | true =>
      simp only [lowerNotAmong, if_neg hitems, if_true] at h
      cases h
      split <;> exact hitem
    | false =>
      simp only [lowerNotAmong, if_neg hitems, Bool.false_eq_true, if_false] at h
      obtain ⟨inner, hinner, h⟩ := Result.bind_eq_ok.1 h
      obtain ⟨vs, -, rfl⟩ := Result.map_eq_ok.1 hinner
      cases h
      split <;> trivial

/-- The tests of constraints have no empty groups. -/
theorem full_lower (h : c.lower name isArray nested = .ok test) : test.Full := by
  cases c with
  | isNull =>
    cases h
    trivial
  | present expected =>
    cases h
    cases expected <;> trivial
  | equals operand => exact full_lowerEquals h
  | notEqual operand => exact full_lowerNotEqual h
  | compare comparison operand =>
    rw [lower] at h
    split at h
    · cases h
    · obtain ⟨v, -, rfl⟩ := Result.map_eq_ok.1 h
      trivial
  | among operands => exact full_lowerAmong h
  | notAmong operands => exact full_lowerNotAmong h
  | all operands =>
    rw [lower] at h
    split at h
    · cases h
      trivial
    · cases h
  | regex pattern options =>
    obtain ⟨translated, -, rfl⟩ := Result.map_eq_ok.1 h
    trivial
  | text term language =>
    cases h
    trivial
  | near point maxDistance =>
    obtain ⟨_, -, h⟩ := Result.bind_eq_ok.1 h
    cases h
    trivial
  | inBox corner opposite | inPolygon ring =>
    cases h
    trivial

/-- A key that belongs to another gives no constraint. -/
theorem readOperator_of_isCompanion (h : Query.isCompanion entries key = true) :
    readOperator field entries key operand = .ok none := by
  simp only [Query.isCompanion, Bool.or_eq_true, Bool.and_eq_true, beq_iff_eq] at h
  rcases h with ⟨rfl, h⟩ | ⟨rfl, h⟩ <;> simp [readOperator, Comparison.ofKey?, h]

/-- A key that gives no constraint belongs to another. -/
theorem isCompanion_of_readOperator (h : readOperator field entries key operand = .ok none) :
    Query.isCompanion entries key = true := by
  unfold readOperator at h
  -- every other key gives a constraint or a fault
  split at h
  · cases h
  · split at h
    case h_6 => split at h <;> cases h
    case h_7 => split at h <;> cases h
    case h_12 =>
      split at h
      · next hoptions => simp [Query.isCompanion, hoptions]
      · split at h
        · next hdistance => simp [Query.isCompanion, hdistance]
        · cases h
    all_goals first
      | cases h
      | (obtain ⟨v, -, hv⟩ := Result.map_eq_ok.1 h; cases hv)

theorem asksAbsence_readText (h : readText operand = .ok c) : c.asksAbsence = false := by
  obtain ⟨search, -, h⟩ := Result.bind_eq_ok.1 h
  have hflags : ∀ {first second : Except Fault Unit} {term : String} {language : Option String},
      (do first; second; return .text term language : Except Fault Constraint) = .ok c →
        c.asksAbsence = false := by
    intro first second term language h
    obtain ⟨_, -, h⟩ := Result.bind_eq_ok.1 h
    obtain ⟨_, -, h⟩ := Result.bind_eq_ok.1 h
    cases h
    rfl
  simp only at h
  split at h
  · split at h
    · cases h
    · split at h
      · exact hflags h
      · exact hflags h
      · cases h
  · cases h

theorem asksAbsence_readNear {distance : Option Json} (h : readNear operand distance = .ok c) :
    c.asksAbsence = false := by
  obtain ⟨point, -, h⟩ := Result.bind_eq_ok.1 h
  simp only at h
  split at h
  · cases h
    rfl
  · cases h
    rfl
  · obtain ⟨maxDistance, -, h⟩ := Result.bind_eq_ok.1 h
    cases h
    rfl

theorem asksAbsence_readBox (h : readBox operand = .ok c) : c.asksAbsence = false := by
  unfold readBox at h
  split at h
  · obtain ⟨corner, -, h⟩ := Result.bind_eq_ok.1 h
    obtain ⟨opposite, -, h⟩ := Result.bind_eq_ok.1 h
    cases h
    rfl
  · cases h

theorem asksAbsence_readPolygon (h : readPolygon operand = .ok c) : c.asksAbsence = false := by
  unfold readPolygon at h
  split at h
  · split at h
    · cases h
    · obtain ⟨points, -, h⟩ := Result.bind_eq_ok.1 h
      cases h
      rfl
  · cases h

/-- Only `$exists: false` asks for the absence of a field. -/
theorem eq_exists_of_asksAbsence (h : readOperator field entries key operand = .ok (some c))
    (habsent : c.asksAbsence = true) : key = "$exists" ∧ operand = .bool false := by
  have hother : ∀ {x : Except Fault Constraint}, (∀ c, x = .ok c → c.asksAbsence = false) →
      x.map some = .ok (some c) → False := by
    intro x hx hmap
    obtain ⟨d, hd, hdc⟩ := Result.map_eq_ok.1 hmap
    cases hdc
    simp [hx c hd] at habsent
  unfold readOperator at h
  split at h
  · cases h
    cases habsent
  · split at h
    case h_1 =>
      cases h
      split at habsent <;> cases habsent
    case h_2 =>
      cases h
      cases habsent
    case h_3 | h_4 | h_5 =>
      obtain ⟨vs, -, hc⟩ := Result.map_eq_ok.1 h
      cases hc
      cases habsent
    case h_6 =>
      split at h
      · next b =>
        cases h
        cases b with
        | false => exact ⟨rfl, rfl⟩
        | true => cases habsent
      · cases h
    case h_7 =>
      split at h
      · cases h
        cases habsent
      · cases h
    case h_8 => exact (hother (fun _ => asksAbsence_readText) h).elim
    case h_9 => exact (hother (fun _ => asksAbsence_readNear) h).elim
    case h_10 => exact (hother (fun _ => asksAbsence_readBox) h).elim
    case h_11 => exact (hother (fun _ => asksAbsence_readPolygon) h).elim
    case h_12 =>
      split at h
      · cases h
      · split at h <;> cases h

end Constraint

/-! ### Fields -/

namespace Query

variable {storage : ClassSchema} {name key : String} {entries : Object}
  {operators : List (String × Json)} {operand v : Json} {cs : List Constraint} {tests : List Test}

theorem operatorTrees_of_isCompanion (h : isCompanion entries key = true) :
    operatorTrees storage name entries ((key, operand) :: operators) =
      operatorTrees storage name entries operators := by
  simp [operatorTrees, h]

theorem operatorTrees_cons (h : isCompanion entries key = false) :
    operatorTrees storage name entries ((key, operand) :: operators) =
      operatorTree storage name entries (key, operand) ::
        operatorTrees storage name entries operators := by
  simp [operatorTrees, h]

theorem isCompanion_eq_false {c : Constraint}
    (h : Constraint.readOperator name entries key operand = .ok (some c)) :
    isCompanion entries key = false := by
  cases hcompanion : isCompanion entries key with
  | false => rfl
  | true => simp [Constraint.readOperator_of_isCompanion hcompanion] at h

/-- The operators of a known field come to one test each. -/
theorem agrees_operatorTrees {type : FieldType}
    (htype : storage.fieldType? (Target.ofName name).column = some type)
    (hread : Constraint.readOperators name entries operators = .ok cs)
    (hlower : cs.mapM (Constraint.lower name (!(Target.ofName name).isNested && type.isArray)
      (Target.ofName name).isNested) = .ok tests) :
    Expr.Agrees (Leaf.LowersTo storage) (.conj (operatorTrees storage name entries operators))
      (.conj (tests.map fun t => .atom (Target.ofName name, t))) := by
  induction operators generalizing cs tests with
  | nil =>
    cases hread
    cases hlower
    exact .truth
  | cons e rest ih =>
    obtain ⟨key, operand⟩ := e
    obtain ⟨first, hfirst, hread⟩ := Result.bind_eq_ok.1 hread
    obtain ⟨others, hothers, hread⟩ := Result.bind_eq_ok.1 hread
    cases hread
    cases first with
    | none =>
      -- a companion has no leaf and no test
      rw [operatorTrees_of_isCompanion (Constraint.isCompanion_of_readOperator hfirst)]
      exact ih hothers hlower
    | some c =>
      obtain ⟨test, more, htest, hmore, rfl⟩ := Result.mapM_cons_eq_ok.1 hlower
      have hleaf : Leaf.LowersTo storage (.operator name entries key operand)
          (Target.ofName name, test) := .of_lower hfirst htype htest
      have hknown : operatorTree storage name entries (key, operand) =
          .atom (.operator name entries key operand) := by simp [operatorTree, htype]
      rw [operatorTrees_cons (isCompanion_eq_false hfirst), hknown]
      have hone : Expr.Agrees (Leaf.LowersTo storage) (.atom (.operator name entries key operand))
          (.conj [.atom (Target.ofName name, test)]) := .atom hleaf
      exact hone.conj_cons (ih hothers hmore)

/-- The operators of an unknown field hold if each asks for its absence. -/
theorem agrees_of_asksAbsence {α : Type} {R : Leaf → α → Prop}
    (hunknown : storage.fieldType? (Target.ofName name).column = none)
    (hread : Constraint.readOperators name entries operators = .ok cs)
    (habsent : cs.all Constraint.asksAbsence = true) :
    Expr.Agrees R (.conj (operatorTrees storage name entries operators)) (.conj []) := by
  induction operators generalizing cs with
  | nil => exact .truth
  | cons e rest ih =>
    obtain ⟨key, operand⟩ := e
    obtain ⟨first, hfirst, hread⟩ := Result.bind_eq_ok.1 hread
    obtain ⟨others, hothers, hread⟩ := Result.bind_eq_ok.1 hread
    cases hread
    cases first with
    | none =>
      rw [operatorTrees_of_isCompanion (Constraint.isCompanion_of_readOperator hfirst)]
      exact ih hothers habsent
    | some c =>
      obtain ⟨hc, hrest⟩ : c.asksAbsence = true ∧ others.all Constraint.asksAbsence = true := by
        simpa using habsent
      -- the key is `$exists`, which holds of an unknown field
      obtain ⟨rfl, rfl⟩ := Constraint.eq_exists_of_asksAbsence hfirst hc
      have hholds : operatorTree storage name entries ("$exists", .bool false) = .truth := by
        simp [operatorTree, hunknown]
      rw [operatorTrees_cons (isCompanion_eq_false hfirst), hholds]
      have hnone : Expr.Agrees R .truth (.conj []) := .truth
      exact hnone.conj_cons (ih hothers hrest)

/-- A field's value is one leaf, or it is an object of operators. -/
theorem fieldTree_cases (storage : ClassSchema)
    (hread : Constraint.readField name v = .ok cs) :
    (∃ c, cs = [c] ∧ c.asksAbsence = false ∧ fieldTree storage name v = .atom (.value name v)) ∨
      ∃ entries, fieldTree storage name v = .conj (operatorTrees storage name entries entries) ∧
        Constraint.readOperators name entries entries = .ok cs := by
  unfold Constraint.readField at hread
  -- null, a truth value, a number and a text are themselves, and an array is refused
  split at hread
  · cases hread
    exact .inl ⟨_, rfl, rfl, rfl⟩
  · cases hread
    exact .inl ⟨_, rfl, rfl, rfl⟩
  · cases hread
    exact .inl ⟨_, rfl, rfl, rfl⟩
  · cases hread
    exact .inl ⟨_, rfl, rfl, rfl⟩
  · cases hread
  · next entries =>
    split at hread
    · next htag =>
      cases hread
      exact .inl ⟨_, rfl, rfl, if_pos htag⟩
    · next htag => exact .inr ⟨entries, if_neg htag, hread⟩

theorem full_tests {x : Target} {isArray nested : Bool} (hne : cs ≠ [])
    (hlower : cs.mapM (Constraint.lower name isArray nested) = .ok tests) :
    (RowClause.tests x tests).Full := by
  rw [RowClause.Full]
  constructor
  · cases cs with
    | nil => exact absurd rfl hne
    | cons c cs =>
      obtain ⟨test, more, -, -, rfl⟩ := Result.mapM_cons_eq_ok.1 hlower
      exact List.cons_ne_nil _ _
  · clear hne
    induction cs generalizing tests with
    | nil =>
      cases hlower
      simp
    | cons c cs ih =>
      obtain ⟨test, more, htest, hmore, rfl⟩ := Result.mapM_cons_eq_ok.1 hlower
      intro t ht
      rcases List.mem_cons.1 ht with rfl | ht
      · exact Constraint.full_lower htest
      · exact ih hmore t ht

/-- **What a field asks for is what its clause tests.** -/
theorem agrees_fieldTree {c : Option RowClause} (hread : Constraint.readField name v = .ok cs)
    (hlower : Clause.lowerField storage name cs = .ok c) :
    Expr.Agrees (Leaf.LowersTo storage) (fieldTree storage name v)
      (.conj (c.toList.map RowClause.shape)) ∧ ∀ r ∈ c, r.Full := by
  unfold Clause.lowerField at hlower
  simp only at hlower
  split at hlower
  · next hunknown =>
    split at hlower
    · next habsent =>
      cases hlower
      rw [Bool.and_eq_true] at habsent
      refine ⟨?_, by simp⟩
      -- a bare value does not ask for absence, so the field has operators
      rcases fieldTree_cases storage hread with
        ⟨d, rfl, hpresent, -⟩ | ⟨entries, htree, hread⟩
      · simp [hpresent] at habsent
      · rw [htree]
        exact agrees_of_asksAbsence hunknown hread habsent.2
    · cases hlower
  · next type htype =>
    split at hlower
    · cases hlower
    · next hne =>
      obtain ⟨tests, htests, hlower⟩ := Result.bind_eq_ok.1 hlower
      cases hlower
      refine ⟨?_, ?_⟩
      · show Expr.Agrees _ _ (RowClause.shape _)
        rw [RowClause.shape]
        rcases fieldTree_cases storage hread with
          ⟨d, rfl, -, htree⟩ | ⟨entries, htree, hread⟩
        · obtain ⟨test, more, htest, hmore, rfl⟩ := Result.mapM_cons_eq_ok.1 htests
          cases hmore
          have hleaf : Leaf.LowersTo storage (.value name v) (Target.ofName name, test) :=
            .of_lower hread htype htest
          rw [htree]
          exact .atom hleaf
        · rw [htree]
          exact agrees_operatorTrees htype hread htests
      · rintro r ⟨⟩
        exact full_tests (by simpa using hne) htests

/-! ### Queries -/

/-- Read one entry of a query. -/
def ofEntry (name : String) (v : Json) : Except Fault Clause :=
  if name = "$or" then connected .or name v
  else if name = "$and" then connected .and name v
  else if name.toList.head? = some '$' then .error (.unsupportedQuery name v.compact)
  else (Constraint.readField name v).map fun constraints => .field name constraints

theorem ofEntries_cons_eq_ok {q : Query} :
    ofEntries ((name, v) :: operators) = .ok q ↔ ∃ clause clauses, ofEntry name v = .ok clause ∧
      ofEntries operators = .ok clauses ∧ q = clause :: clauses := by
  have hbind : ofEntries ((name, v) :: operators) =
      ofEntry name v >>= fun clause => ofEntries operators >>= fun clauses =>
        .ok (clause :: clauses) := by
    rw [ofEntries, ofEntry]
    split
    · rfl
    · split
      · rfl
      · split <;> rfl
  rw [hbind, Result.bind_eq_ok]
  constructor
  · rintro ⟨clause, hclause, h⟩
    obtain ⟨clauses, hclauses, h⟩ := Result.bind_eq_ok.1 h
    cases h
    exact ⟨clause, clauses, hclause, hclauses, rfl⟩
  · rintro ⟨clause, clauses, hclause, hclauses, rfl⟩
    exact ⟨clause, hclause, Result.bind_eq_ok.2 ⟨clauses, hclauses, rfl⟩⟩

/-- A clause in front of others adds one conjunct, or nothing if it holds. -/
theorem agrees_cons {e : Expr Leaf} {es : List (Expr Leaf)} {first : Option RowClause}
    {others : Filter}
    (hfirst : Expr.Agrees (Leaf.LowersTo storage) e (.conj (first.toList.map RowClause.shape)))
    (hfull : ∀ r ∈ first, r.Full)
    (hothers : Expr.Agrees (Leaf.LowersTo storage) (.conj es) (Filter.shape others) ∧
      RowClause.ClausesFull others) :
    Expr.Agrees (Leaf.LowersTo storage) (.conj (e :: es)) (Filter.shape (first.toList ++ others)) ∧
      RowClause.ClausesFull (first.toList ++ others) := by
  have hagrees := hfirst.conj_cons hothers.1
  cases first with
  | none => exact ⟨hagrees, hothers.2⟩
  | some r => exact ⟨hagrees, hfull r rfl, hothers.2⟩

mutual

theorem agrees_tree : (v : Json) → {q : Query} → {f : Filter} → ofJson v = .ok q →
    Clause.lowerAll storage q = .ok f →
      Expr.Agrees (Leaf.LowersTo storage) (tree storage v) (Filter.shape f) ∧
        RowClause.ClausesFull f
  | .obj entries, _, _, hread, hlower => by
    rw [tree]
    exact agrees_entryTrees entries hread hlower
  | .null, _, _, hread, hlower => by
    cases hread
    cases hlower
    exact ⟨.truth, trivial⟩
  | .bool _, _, _, hread, _ => by cases hread
  | .num _, _, _, hread, _ => by cases hread
  | .str _, _, _, hread, _ => by cases hread
  | .arr _, _, _, hread, _ => by cases hread

theorem agrees_entryTrees : (entries : List (String × Json)) → {q : Query} → {f : Filter} →
    ofEntries entries = .ok q → Clause.lowerAll storage q = .ok f →
      Expr.Agrees (Leaf.LowersTo storage) (.conj (entryTrees storage entries)) (Filter.shape f) ∧
        RowClause.ClausesFull f
  | [], _, _, hread, hlower => by
    cases hread
    cases hlower
    exact ⟨.truth, trivial⟩
  | (name, v) :: rest, _, _, hread, hlower => by
    obtain ⟨clause, clauses, hclause, hclauses, rfl⟩ := ofEntries_cons_eq_ok.1 hread
    rw [Clause.lowerAll] at hlower
    obtain ⟨first, hfirst, hlower⟩ := Result.bind_eq_ok.1 hlower
    obtain ⟨others, hothers, hlower⟩ := Result.bind_eq_ok.1 hlower
    cases hlower
    have hrest := agrees_entryTrees rest hclauses hothers
    rw [entryTrees]
    unfold ofEntry at hclause
    split at hclause
    · -- a group of queries with `OR` between them
      next hor =>
      obtain ⟨filters, rfl, hne, hfull, hagrees⟩ := agrees_itemTrees v hclause hfirst
      rw [if_pos hor]
      refine agrees_cons ?_ ?_ hrest
      · show Expr.Agrees _ _ (RowClause.shape _)
        rw [RowClause.shape]
        exact .disj hagrees
      · rintro r ⟨⟩
        exact ⟨hne, hfull⟩
    · next hor =>
      rw [if_neg hor]
      split at hclause
      · -- a group of queries with `AND` between them
        next hand =>
        obtain ⟨filters, rfl, hne, hfull, hagrees⟩ := agrees_itemTrees v hclause hfirst
        rw [if_pos hand]
        refine agrees_cons ?_ ?_ hrest
        · show Expr.Agrees _ _ (RowClause.shape _)
          rw [RowClause.shape]
          exact .conj hagrees
        · rintro r ⟨⟩
          exact ⟨hne, hfull⟩
      · next hand =>
        rw [if_neg hand]
        split at hclause
        · cases hclause
        · obtain ⟨constraints, hconstraints, rfl⟩ := Result.map_eq_ok.1 hclause
          obtain ⟨hagrees, hfull⟩ := agrees_fieldTree hconstraints hfirst
          exact agrees_cons hagrees hfull hrest

theorem agrees_itemTrees : (v : Json) → {connective : Connective} → {name : String} →
    {c : Clause} → {r : Option RowClause} → connected connective name v = .ok c →
      Clause.lower storage c = .ok r → ∃ filters, r = some (.group connective filters) ∧
        filters ≠ [] ∧ RowClause.GroupFull filters ∧
        List.Forall₂ (Expr.Agrees (Leaf.LowersTo storage)) (itemTrees storage v)
          (RowClause.groupShapes filters)
  | .arr items, connective, _, _, _, hread, hlower => by
    rw [connected] at hread
    split at hread
    · cases hread
    · next hne =>
      obtain ⟨queries, hqueries, hread⟩ := Result.bind_eq_ok.1 hread
      cases hread
      rw [Clause.lower] at hlower
      obtain ⟨filters, hfilters, rfl⟩ := Result.map_eq_ok.1 hlower
      obtain ⟨hagrees, hfull, hlength⟩ := agrees_queryTrees items hqueries hfilters
      refine ⟨filters, rfl, ?_, hfull, ?_⟩
      · rintro rfl
        exact hne (List.isEmpty_iff_length_eq_zero.2 hlength.symm)
      · rw [itemTrees]
        exact hagrees
  | .null, _, _, _, _, hread, _ => by cases hread
  | .bool _, _, _, _, _, hread, _ => by cases hread
  | .num _, _, _, _, _, hread, _ => by cases hread
  | .str _, _, _, _, _, hread, _ => by cases hread
  | .obj _, _, _, _, _, hread, _ => by cases hread

theorem agrees_queryTrees : (items : List Json) → {queries : List Query} →
    {filters : List Filter} → ofItems items = .ok queries →
      Clause.lowerGroup storage queries = .ok filters →
      List.Forall₂ (Expr.Agrees (Leaf.LowersTo storage)) (queryTrees storage items)
          (RowClause.groupShapes filters) ∧
        RowClause.GroupFull filters ∧ filters.length = items.length
  | [], _, _, hread, hlower => by
    cases hread
    cases hlower
    rw [queryTrees, RowClause.groupShapes]
    exact ⟨.nil, trivial, rfl⟩
  | v :: rest, _, _, hread, hlower => by
    rw [ofItems] at hread
    obtain ⟨first, hfirst, hread⟩ := Result.bind_eq_ok.1 hread
    obtain ⟨others, hothers, hread⟩ := Result.bind_eq_ok.1 hread
    cases hread
    rw [Clause.lowerGroup] at hlower
    obtain ⟨filter, hfilter, hlower⟩ := Result.bind_eq_ok.1 hlower
    obtain ⟨filters, hfilters, hlower⟩ := Result.bind_eq_ok.1 hlower
    cases hlower
    obtain ⟨hagrees, hfull⟩ := agrees_tree v hfirst hfilter
    obtain ⟨hagreesRest, hfullRest, hlength⟩ := agrees_queryTrees rest hothers hfilters
    rw [queryTrees, RowClause.groupShapes]
    exact ⟨.cons hagrees hagreesRest, ⟨hfull, hfullRest⟩, by simp [hlength]⟩

end

/-! ### Conditions -/

/-- What the text of a fragment is read as. -/
def readFragment (t : Template) : Expr (List Token) := (Expr.readPrimary? t.print).getD .truth

theorem readPrimary?_print {p : Target × Test} {t : Template} (h : Test.IsFragment p t) :
    Expr.readPrimary? t.print = some (t.fragment Template.placeholder) := by
  have hclear : Template.Clear true t := by
    obtain ⟨-, n, k, rfl⟩ := h
    exact (Test.clear_condition p.1.clear_text p.2).shift k
  rw [Expr.readPrimary?, Template.solidTokens?_print hclear, Option.bind_some]
  exact (h.isConjunction Template.operands_placeholder).readPrimary

/-- **The condition of a query has the structure of the query.**  Read as a boolean expression, it
is an expression over fragments: the texts of the query's constraints, one for each and in order,
none of which has an `AND` or `OR` outside parentheses.  And it has the value of the query's tree,
whatever values the constraints have. -/
theorem read_condition {schema : ClassSchema} {v : Json} {q : Query} {start : Nat} {w : WhereClause}
    (hread : ofJson v = .ok q) (hcompile : q.compile schema start = .ok w) :
    ∃ k : Expr Template,
      Expr.read? w.condition.print = some (k.bind readFragment) ∧
      (∀ t ∈ k.atoms, Expr.readPrimary? t.print = some (readFragment t)) ∧
      List.Forall₂ (Leaf.IsFragment schema.storage) (tree schema.storage v).atoms k.atoms ∧
      ∀ σ : Nat → Truth, (k.number 0).value σ = ((tree schema.storage v).number 0).value σ := by
  obtain ⟨f, hfilter, rfl⟩ := Result.map_eq_ok.1 hcompile
  -- from the tree to the tests of the filter, and from these to the text
  obtain ⟨htree, hfull⟩ := agrees_tree v hread hfilter
  obtain ⟨ks, hks⟩ := Filter.exists_spells hfull
  have hshifted := hks.shift (start - 1)
  rw [← WhereClause.condition_shift] at hshifted
  have hclear := ((Filter.clear_whereClause f).shift (start - 1)).condition
  generalize ks.map (Expr.map (Template.shift (start - 1))) = js at hshifted
  have hfragment : ∀ t ∈ (Expr.conj js).atoms,
      Expr.readPrimary? t.print = some (t.fragment Template.placeholder) := by
    intro t ht
    obtain ⟨p, hp⟩ := hshifted.agrees.exists_of_mem ht
    exact readPrimary?_print hp
  have hreadFragment : ∀ t ∈ (Expr.conj js).atoms,
      readFragment t = t.fragment Template.placeholder := by
    intro t ht
    rw [readFragment, hfragment t ht]
    rfl
  have hall := htree.trans (T := Leaf.IsFragment schema.storage) hshifted.agrees
    fun leaf p t hleaf ⟨_, n, k, ht⟩ => ⟨p.1, p.2, n, k, hleaf, ht⟩
  refine ⟨.conj js, ?_, fun t ht => ?_, hall.atoms, fun σ => (hall.value 0 σ).symm⟩
  · rw [Expr.read?, Template.solidTokens?_print hclear, Option.bind_some,
      (hshifted.reads _ Template.operands_placeholder).readTokens, Expr.bind_congr hreadFragment,
      Expr.bind_conj]
  · rw [hreadFragment t ht, hfragment t ht]

/-- A class with a number and a text. -/
def pairSchema : ClassSchema :=
  ((ClassSchema.named "Pair").field "count" .number).field "label" .string

/-- A group within a group, with an empty query in it and the absence of an unknown field beside
it. -/
def nestedQuery : Json :=
  .obj [("$or", .arr [.obj [("count", .obj [("$ne", .ofInt 1), ("$gt", .ofInt 0)])],
      .obj [("$and", .arr [.obj [], .obj [("label", .null)]])]]),
    ("gone", .obj [("$exists", .bool false)])]

theorem read_condition_nestedQuery :
    ∃ q w, ofJson nestedQuery = .ok q ∧ q.compile pairSchema 1 = .ok w ∧
      w.condition.print = "(($1 <> $2 OR $1 IS NULL) AND $1 > $3 OR (TRUE AND $4 IS NULL))" ∧
      ∃ k : Expr Template,
        Expr.read? w.condition.print = some (k.bind readFragment) ∧
        (∀ t ∈ k.atoms, Expr.readPrimary? t.print = some (readFragment t)) ∧
        List.Forall₂ (Leaf.IsFragment pairSchema.storage)
          (tree pairSchema.storage nestedQuery).atoms k.atoms ∧
        ∀ σ : Nat → Truth,
          (k.number 0).value σ = ((tree pairSchema.storage nestedQuery).number 0).value σ :=
  ⟨_, _, rfl, rfl, by decide +kernel, read_condition rfl rfl⟩

end Query

end DocStore
