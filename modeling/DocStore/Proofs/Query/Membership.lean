import DocStore.Proofs.Command.Condition
import DocStore.Proofs.Query.Predicates
import DocStore.Proofs.Query.Tree

/-!
# Negation and membership

Comparing a column that is `NULL` gives neither true nor false, so that the negation of a comparison
does not select the rows that the comparison leaves out.  The queries `$ne` and `$nin` do: of
`$eq` and `$ne` with one value, and of `$in` and `$nin` with one list, exactly one selects a row
(`Query.selects_opposite`).  And a list selects what one of its members selects.

`Query.ask` asks one field for one operator.  `Constraint.isAmong` says what membership in a list
means for a row, and the tests of both `$in` and `$nin` are compared with it.
-/

namespace DocStore

open Sql

namespace Constraint

variable {name : String} {isArray nested : Bool} {operand : Json} {operands : List Json}
  {t u : Test} (φ : Facts) (x : List Token)

/-- The members of a list, and those of the lists inside it. -/
def IsMember (m : Json) (operands : List Json) : Prop :=
  (m ∈ operands ∧ m.isArray = false) ∨ ∃ inner, .arr inner ∈ operands ∧ m ∈ inner

theorem mem_flatten {m : Json} : m ∈ flatten operands ↔ IsMember m operands := by
  unfold flatten IsMember
  rw [List.mem_flatMap]
  constructor
  · rintro ⟨v, hv, hm⟩
    cases v with
    | arr inner => exact .inr ⟨inner, hv, hm⟩
    | null | bool b | num n | str s | obj entries =>
      obtain rfl := List.mem_singleton.1 hm
      exact .inl ⟨hv, rfl⟩
  · rintro (⟨hm, harray⟩ | ⟨inner, hinner, hm⟩)
    · refine ⟨m, hm, ?_⟩
      cases m with
      | arr inner => cases harray
      | null | bool b | num n | str s | obj entries => exact List.mem_singleton_self _
    · exact ⟨.arr inner, hinner, hm⟩

/-- A member that can be compared with a column. -/
def Comparable (name : String) (isArray nested : Bool) (m : Json) : Prop :=
  isArray = true ∨ ∃ v, scalar name nested m = .ok v

/-- Whether a column that has a value has this one, or holds it. -/
def hits (name : String) (isArray nested : Bool) (m : Json) : Bool :=
  if isArray then φ.contains x (Param.json (.arr [m])).token
  else
    match scalar name nested m with
    | .ok v => φ.equals x (Param.value v).token
    | .error _ => false

/-- Whether a column has one of several values, where `null` stands for none. -/
def isAmong (name : String) (isArray nested : Bool) (operands : List Json) : Bool :=
  (flatten operands).any fun m =>
    if m.isNull then φ.isNull x else !φ.isNull x && hits φ x name isArray nested m

variable {φ x} {items : List Json}

theorem isAmong_eq :
    isAmong φ x name isArray nested operands =
      if φ.isNull x then (flatten operands).any Json.isNull
      else ((flatten operands).filter fun m => !m.isNull).any (hits φ x name isArray nested) := by
  unfold isAmong
  rw [List.any_filter]
  cases φ.isNull x with
  | true => simp
  | false =>
    simp only [Bool.not_false, Bool.true_and, Bool.false_eq_true, if_false]
    congr 1
    funext m
    cases m.isNull <;> rfl

/-- The scalars of a list are hit where one of the list is. -/
theorem any_scalars {vs : List Json} (h : items.mapM (scalar name nested) = .ok vs) :
    (vs.map fun v => (Param.value v).token).any (φ.equals x) =
      items.any (hits φ x name false nested) := by
  induction items generalizing vs with
  | nil =>
    cases h
    rfl
  | cons m items ih =>
    obtain ⟨v, rest, hv, hrest, rfl⟩ := Result.mapM_cons_eq_ok.1 h
    have hhit : hits φ x name false nested m = φ.equals x (Param.value v).token := by
      simp [hits, hv]
    rw [List.map_cons, List.any_cons, List.any_cons, ih hrest, hhit]

/-- A test for one of some items, which are not `null`. -/
def lowerAny (name : String) (isArray nested : Bool) (items : List Json) : Except Fault Test :=
  if isArray then .ok (.holdsAny items) else (items.mapM (scalar name nested)).map .among

/-- A test for none of some items, which are not `null`. -/
def lowerNone (name : String) (isArray nested : Bool) (items : List Json) : Except Fault Test :=
  if isArray then .ok (.holdsNone items) else (items.mapM (scalar name nested)).map .notAmong

theorem ne_nil_of_mapM {vs : List Json} (hne : items ≠ [])
    (h : items.mapM (scalar name nested) = .ok vs) : vs ≠ [] := by
  cases items with
  | nil => exact absurd rfl hne
  | cons m items =>
    obtain ⟨v, rest, -, -, rfl⟩ := Result.mapM_cons_eq_ok.1 h
    exact List.cons_ne_nil _ _

theorem truth_lowerAny (hne : items ≠ []) (h : lowerAny name isArray nested items = .ok t) :
    t.Compares ∧ t.truth φ x = φ.judge x (items.any (hits φ x name isArray nested)) := by
  unfold lowerAny at h
  cases isArray with
  | true =>
    cases h
    exact ⟨hne, rfl⟩
  | false =>
    obtain ⟨vs, hvs, rfl⟩ := Result.map_eq_ok.1 h
    refine ⟨ne_nil_of_mapM hne hvs, ?_⟩
    rw [Test.truth, Facts.holds, any_scalars hvs]

theorem truth_lowerNone (hne : items ≠ []) (h : lowerNone name isArray nested items = .ok t) :
    t.Compares ∧ t.truth φ x = φ.judge x (!items.any (hits φ x name isArray nested)) := by
  unfold lowerNone at h
  cases isArray with
  | true =>
    cases h
    exact ⟨hne, rfl⟩
  | false =>
    obtain ⟨vs, hvs, rfl⟩ := Result.map_eq_ok.1 h
    refine ⟨ne_nil_of_mapM hne hvs, ?_⟩
    rw [Test.truth, Facts.holds, any_scalars hvs]

/-- A test for one of some items can be made where a test for none of them can. -/
theorem lowerAny_iff_lowerNone :
    (∃ t, lowerAny name isArray nested items = .ok t) ↔
      ∃ t, lowerNone name isArray nested items = .ok t := by
  unfold lowerAny lowerNone
  cases isArray with
  | true => exact ⟨fun _ => ⟨_, rfl⟩, fun _ => ⟨_, rfl⟩⟩
  | false => exact Result.exists_map_eq_ok.trans Result.exists_map_eq_ok.symm

/-- The members of a list that are compared. -/
def compared (operands : List Json) : List Json := (flatten operands).filter fun m => !m.isNull

theorem lowerAmong_eq :
    lowerAmong name isArray nested operands =
      if (compared operands).isEmpty then .ok .isNull
      else (lowerAny name isArray nested (compared operands)).map fun t =>
        if (flatten operands).any Json.isNull then .nullOr t else t := by
  cases isArray with
  | true => rfl
  | false =>
    simp only [lowerAmong, lowerAny, compared, Bool.false_eq_true, if_false, Result.bind_pure]

theorem lowerNotAmong_eq :
    lowerNotAmong name isArray nested operands =
      if (compared operands).isEmpty then
        .ok (if (flatten operands).any Json.isNull then .isPresent else .always)
      else (lowerNone name isArray nested (compared operands)).map fun t =>
        if (flatten operands).any Json.isNull then .presentAnd t else .orNull t := by
  cases isArray with
  | true => rfl
  | false =>
    simp only [lowerNotAmong, lowerNone, compared, Bool.false_eq_true, if_false, Result.bind_pure]

/-- Where nothing is compared, some member is `null`. -/
theorem any_isNull_of_compared {m : Json} (hm : IsMember m operands) (h : compared operands = []) :
    (flatten operands).any Json.isNull = true := by
  have hflat := mem_flatten.2 hm
  have hnull : m.isNull = true := by
    by_contra hnull
    have hmem : m ∈ compared operands := List.mem_filter.2 ⟨hflat, by simpa using hnull⟩
    rw [h] at hmem
    exact List.not_mem_nil hmem
  exact List.any_eq_true.2 ⟨m, hflat, hnull⟩

/-- **The test of a list selects the rows that have one of its members.** -/
theorem truth_lowerAmong {m : Json} (hm : IsMember m operands)
    (h : lowerAmong name isArray nested operands = .ok t) :
    t.Compares ∧ (t.truth φ x = .yes ↔ isAmong φ x name isArray nested operands = true) := by
  rw [lowerAmong_eq] at h
  rw [isAmong_eq]
  split at h
  · next hempty =>
    have hnone : compared operands = [] := by simpa using hempty
    cases h
    refine ⟨trivial, ?_⟩
    rw [Test.truth, Facts.holds, Facts.ofBool_eq_yes, any_isNull_of_compared hm hnone]
    rw [compared] at hnone
    rw [hnone]
    cases φ.isNull x <;> simp
  · next hempty =>
    obtain ⟨inner, hinner, rfl⟩ := Result.map_eq_ok.1 h
    obtain ⟨hcompares, htruth⟩ := truth_lowerAny (φ := φ) (x := x) (by simpa using hempty) hinner
    cases hnull : (flatten operands).any Json.isNull with
    | true =>
      refine ⟨hcompares, ?_⟩
      rw [if_pos rfl, Test.truth, htruth, Facts.isNull_or_judge, Facts.ofBool_eq_yes, compared]
      cases φ.isNull x <;> simp
    | false =>
      refine ⟨by simpa using hcompares, ?_⟩
      rw [if_neg (by simp), htruth, Facts.judge_eq_yes, compared]
      cases φ.isNull x <;> simp

/-- **The test of the absence from a list selects the other rows.** -/
theorem truth_lowerNotAmong {m : Json} (hm : IsMember m operands)
    (h : lowerNotAmong name isArray nested operands = .ok t) :
    t.Compares ∧ (t.truth φ x = .yes ↔ isAmong φ x name isArray nested operands = false) := by
  rw [lowerNotAmong_eq] at h
  rw [isAmong_eq]
  split at h
  · next hempty =>
    have hnone : compared operands = [] := by simpa using hempty
    rw [any_isNull_of_compared hm hnone, if_pos rfl] at h
    cases h
    refine ⟨trivial, ?_⟩
    rw [Test.truth, Facts.holds, Facts.ofBool_eq_yes, any_isNull_of_compared hm hnone]
    rw [compared] at hnone
    rw [hnone]
    cases φ.isNull x <;> simp
  · next hempty =>
    obtain ⟨inner, hinner, rfl⟩ := Result.map_eq_ok.1 h
    obtain ⟨hcompares, htruth⟩ := truth_lowerNone (φ := φ) (x := x) (by simpa using hempty) hinner
    cases hnull : (flatten operands).any Json.isNull with
    | true =>
      refine ⟨hcompares, ?_⟩
      rw [if_pos rfl, Test.truth, htruth, Facts.isPresent_and_judge, Facts.ofBool_eq_yes, compared]
      cases φ.isNull x <;> simp
    | false =>
      refine ⟨hcompares, ?_⟩
      rw [if_neg (by simp), Test.truth, htruth, Facts.judge_or_isNull, Facts.ofBool_eq_yes,
        compared]
      cases φ.isNull x <;> simp

theorem lowerAmong_iff_lowerNotAmong :
    (∃ t, lowerAmong name isArray nested operands = .ok t) ↔
      ∃ t, lowerNotAmong name isArray nested operands = .ok t := by
  rw [lowerAmong_eq, lowerNotAmong_eq]
  split
  · exact ⟨fun _ => ⟨_, rfl⟩, fun _ => ⟨_, rfl⟩⟩
  · rw [Result.exists_map_eq_ok, Result.exists_map_eq_ok]
    exact lowerAny_iff_lowerNone

/-- The members of a list that has a test can be compared, but for `null`. -/
theorem comparable_of_lowerAmong {m : Json} (h : lowerAmong name isArray nested operands = .ok t)
    (hm : IsMember m operands) (hnull : m.isNull = false) : Comparable name isArray nested m := by
  have hmem : m ∈ compared operands := List.mem_filter.2 ⟨mem_flatten.2 hm, by simpa using hnull⟩
  rw [lowerAmong_eq, if_neg (by simpa using List.ne_nil_of_mem hmem)] at h
  obtain ⟨inner, hinner, -⟩ := Result.map_eq_ok.1 h
  unfold lowerAny at hinner
  cases isArray with
  | true => exact .inl rfl
  | false =>
    obtain ⟨vs, hvs, -⟩ := Result.map_eq_ok.1 hinner
    exact .inr (Result.exists_of_mem_mapM hvs hmem)

/-- **The test of one value selects the rows that have it.** -/
theorem truth_lowerEquals {m : Json} (h : lowerEquals name isArray nested m = .ok t)
    (hcomparable : m.isNull = false → Comparable name isArray nested m) :
    t.truth φ x = .yes ↔
      (if m.isNull then φ.isNull x else !φ.isNull x && hits φ x name isArray nested m) = true := by
  unfold lowerEquals at h
  split at h
  · next hnull =>
    cases h
    rw [if_pos hnull, Test.truth, Facts.holds, Facts.ofBool_eq_yes]
  · next hnull =>
    rw [if_neg hnull, Bool.and_eq_true, Bool.not_eq_true']
    unfold hits
    cases isArray with
    | true =>
      rw [if_pos rfl] at h
      split at h
      · cases h
      · cases h
        exact Facts.judge_eq_yes
    | false =>
      rw [if_neg (by simp)] at h
      obtain ⟨v, hv⟩ := (hcomparable (by simpa using hnull)).resolve_left (by simp)
      -- a point has a test, but no scalar to compare
      have hpoint : m.typeTag? ≠ some "GeoPoint" := by
        intro htag
        cases m with
        | obj entries => simp [scalar, htag] at hv
        | null | bool b | num n | str s | arr items => cases htag
      rw [if_neg hpoint, hv] at h
      cases h
      simp only [Bool.false_eq_true, if_false, hv]
      exact Facts.judge_eq_yes

/-- **The tests of equality with a value and of difference from it select opposite rows.** -/
theorem opposite_lowerEquals {v : Json} (h : lowerEquals name isArray nested v = .ok t)
    (h' : lowerNotEqual name isArray nested v = .ok u) :
    t.Compares ∧ u.Compares ∧ (t.truth φ x = .yes ↔ u.truth φ x ≠ .yes) := by
  -- the opposite of a judgement takes the rows in which nothing is judged
  have hopposite : ∀ b : Bool, φ.judge x b = .yes ↔
      (φ.judge x (!b)).or (φ.holds (.isNull x)) ≠ .yes := by
    intro b
    rw [Facts.judge_eq_yes, Facts.judge_or_isNull, Ne, Facts.ofBool_eq_yes]
    cases φ.isNull x <;> cases b <;> simp
  unfold lowerEquals at h
  unfold lowerNotEqual at h'
  split at h
  · next hnull =>
    rw [if_pos hnull] at h'
    cases h
    cases h'
    refine ⟨trivial, trivial, ?_⟩
    rw [Test.truth, Test.truth, Facts.holds, Facts.holds, Ne, Facts.ofBool_eq_yes,
      Facts.ofBool_eq_yes]
    cases φ.isNull x <;> simp
  · next hnull =>
    rw [if_neg hnull] at h'
    cases isArray with
    | true =>
      rw [if_pos rfl] at h h'
      split at h
      · cases h
      · cases h
        cases h'
        exact ⟨trivial, trivial, hopposite _⟩
    | false =>
      rw [if_neg (by simp)] at h h'
      split at h
      · next hpoint =>
        rw [if_pos hpoint] at h'
        obtain ⟨wkt, hwkt, rfl⟩ := Result.map_eq_ok.1 h
        rw [hwkt] at h'
        cases h'
        exact ⟨trivial, trivial, hopposite _⟩
      · next hpoint =>
        rw [if_neg hpoint] at h'
        obtain ⟨w, hw, rfl⟩ := Result.map_eq_ok.1 h
        rw [hw] at h'
        cases h'
        exact ⟨trivial, trivial, hopposite _⟩

theorem compares_lowerEquals {m : Json} (h : lowerEquals name isArray nested m = .ok t) :
    t.Compares := by
  rcases lowerEquals_cases h with rfl | rfl | ⟨wkt, rfl⟩ | ⟨v, rfl⟩ <;> trivial

end Constraint

namespace Query

/-! ### Asking one field for one operator -/

/-- The condition of the query that asks one field for one operator. -/
def ask (schema : ClassSchema) (field key : String) (operand : Json) : Except Fault String := do
  let q ← ofJson (.obj [(field, .obj [(key, operand)])])
  q.conditionText schema

/-- The query compiles. -/
def Compiles (schema : ClassSchema) (field key : String) (operand : Json) : Prop :=
  ∃ condition, ask schema field key operand = .ok condition

/-- The truth value that the condition of the query has in a row. -/
def truth? (φ : Facts) (schema : ClassSchema) (field key : String) (operand : Json) :
    Option Truth :=
  match ask schema field key operand with
  | .ok condition => φ.truth? condition
  | .error _ => none

/-- The query selects a row. -/
def Selects (φ : Facts) (schema : ClassSchema) (field key : String) (operand : Json) : Prop :=
  truth? φ schema field key operand = some .yes

variable {schema : ClassSchema} {field key : String} {operand : Json} {c : Constraint}
  {condition : String}

theorem conditionText_eq_ok {q : Query} :
    q.conditionText schema = .ok condition ↔ ∃ f, q.filter schema = .ok f ∧ condition = f.text := by
  constructor
  · intro h
    obtain ⟨w, hw, -⟩ := Result.bind_eq_ok.1 h
    obtain ⟨f, hf, -⟩ := Result.map_eq_ok.1 hw
    rw [conditionText_eq hf] at h
    cases h
    exact ⟨f, hf, rfl⟩
  · rintro ⟨f, hf, rfl⟩
    exact conditionText_eq hf

/-- The type of the column that a field is kept in. -/
def columnType? (schema : ClassSchema) (field : String) : Option FieldType :=
  schema.storage.fieldType? (Target.ofName field).column

/-- The test of one constraint on a field. -/
def LowersTo (schema : ClassSchema) (field : String) (c : Constraint) (t : Test) : Prop :=
  ∃ type, columnType? schema field = some type ∧
    c.lower field (!(Target.ofName field).isNested && type.isArray) (Target.ofName field).isNested =
      .ok t

theorem lowerField_singleton_eq_ok (hpresent : c.asksAbsence = false) {r : Option RowClause} :
    Clause.lowerField schema.storage field [c] = .ok r ↔
      ∃ t, LowersTo schema field c t ∧ r = some (.tests (Target.ofName field) [t]) := by
  unfold Clause.lowerField LowersTo columnType?
  cases htype : schema.storage.fieldType? (Target.ofName field).column with
  | none => simp [htype, hpresent]
  | some type =>
    simp only [htype, List.isEmpty_cons, Bool.false_eq_true, if_false, Result.bind_eq_ok,
      Option.some.injEq, exists_eq_left']
    constructor
    · rintro ⟨tests, htests, h⟩
      obtain ⟨t, rest, ht, hrest, rfl⟩ := Result.mapM_cons_eq_ok.1 htests
      cases hrest
      cases h
      exact ⟨t, ht, rfl⟩
    · rintro ⟨t, ht, rfl⟩
      exact ⟨[t], Result.mapM_cons_eq_ok.2 ⟨t, [], ht, rfl, rfl⟩, rfl⟩

theorem filter_field_eq_ok (hpresent : c.asksAbsence = false) {f : Filter} :
    Query.filter schema [.field field [c]] = .ok f ↔
      ∃ t, LowersTo schema field c t ∧ f = [.tests (Target.ofName field) [t]] := by
  rw [filter, Clause.lowerAll, Result.bind_eq_ok]
  constructor
  · rintro ⟨r, hr, h⟩
    obtain ⟨t, ht, rfl⟩ := (lowerField_singleton_eq_ok hpresent).1 hr
    cases h
    exact ⟨t, ht, rfl⟩
  · rintro ⟨t, ht, rfl⟩
    exact ⟨_, (lowerField_singleton_eq_ok hpresent).2 ⟨t, ht, rfl⟩, rfl⟩

theorem ofEntry_eq_ok {entries : Object} {clause : Clause} :
    ofEntry field (.obj entries) = .ok clause ↔ field.toList.head? ≠ some '$' ∧
      (Constraint.readField field (.obj entries)).map (.field field) = .ok clause := by
  unfold ofEntry
  -- the connectives begin with a dollar sign as well, and take lists
  split
  · next hor =>
    subst hor
    simp [connected]
  · split
    · next hand =>
      subst hand
      simp [connected]
    · split
      · next hdollar => simp [hdollar]
      · next hdollar => simp [hdollar]

/-- The query compiles if the operator is understood and the column takes its test. -/
theorem ask_eq_ok (hpresent : c.asksAbsence = false) (hkey : key ≠ "__type")
    (hread : Constraint.readOperator field [(key, operand)] key operand = .ok (some c)) :
    ask schema field key operand = .ok condition ↔ field.toList.head? ≠ some '$' ∧
      ∃ t, LowersTo schema field c t ∧
        condition = Filter.text [.tests (Target.ofName field) [t]] := by
  have htag : (Json.obj [(key, operand)]).typeTag? = none := by
    simp [Json.typeTag?, Json.get?, List.lookup_cons, beq_eq_false_iff_ne.2 hkey.symm]
  have hfield : Constraint.readField field (.obj [(key, operand)]) = .ok [c] := by
    simp [Constraint.readField, htag, Constraint.readOperators, hread]
    rfl
  have hquery : ∀ q, ofJson (.obj [(field, .obj [(key, operand)])]) = .ok q ↔
      field.toList.head? ≠ some '$' ∧ q = [.field field [c]] := by
    intro q
    rw [ofJson, ofEntries_cons_eq_ok]
    simp only [ofEntry_eq_ok, hfield]
    constructor
    · rintro ⟨clause, clauses, ⟨hdollar, hclause⟩, hclauses, rfl⟩
      cases hclause
      cases hclauses
      exact ⟨hdollar, rfl⟩
    · rintro ⟨hdollar, rfl⟩
      exact ⟨_, [], ⟨hdollar, rfl⟩, rfl, rfl⟩
  rw [ask, Result.bind_eq_ok]
  constructor
  · rintro ⟨q, hq, hcondition⟩
    obtain ⟨hdollar, rfl⟩ := (hquery q).1 hq
    obtain ⟨f, hf, rfl⟩ := conditionText_eq_ok.1 hcondition
    obtain ⟨t, ht, rfl⟩ := (filter_field_eq_ok hpresent).1 hf
    exact ⟨hdollar, t, ht, rfl⟩
  · rintro ⟨hdollar, t, ht, rfl⟩
    exact ⟨_, (hquery _).2 ⟨hdollar, rfl⟩, conditionText_eq_ok.2
      ⟨_, (filter_field_eq_ok hpresent).2 ⟨t, ht, rfl⟩, rfl⟩⟩

/-- An operator that is understood as the constraint `c`. -/
structure Understood (field key : String) (operand : Json) (c : Constraint) : Prop where
  presence : c.asksAbsence = false
  untagged : key ≠ "__type"
  reads : Constraint.readOperator field [(key, operand)] key operand = .ok (some c)

theorem Understood.compiles_iff (h : Understood field key operand c) :
    Compiles schema field key operand ↔
      field.toList.head? ≠ some '$' ∧ ∃ t, LowersTo schema field c t := by
  simp only [Compiles, ask_eq_ok h.presence h.untagged h.reads]
  constructor
  · rintro ⟨condition, hdollar, t, ht, -⟩
    exact ⟨hdollar, t, ht⟩
  · rintro ⟨hdollar, t, ht⟩
    exact ⟨_, hdollar, t, ht, rfl⟩

/-- The truth value of a query is that of its test. -/
theorem Understood.truth?_eq (h : Understood field key operand c) {φ : Facts} {t : Test}
    (hdollar : field.toList.head? ≠ some '$') (ht : LowersTo schema field c t)
    (hcompares : t.Compares) :
    truth? φ schema field key operand = some (t.truth φ (Target.ofName field).tokens) := by
  have hask : ask schema field key operand = .ok (Filter.text [.tests (Target.ofName field) [t]]) :=
    (ask_eq_ok h.presence h.untagged h.reads).2 ⟨hdollar, t, ht, rfl⟩
  rw [truth?, hask]
  exact Filter.truth?_text φ _ hcompares

theorem understood_in (operands : List Json) :
    Understood field "$in" (.arr operands) (.among operands) :=
  ⟨rfl, by decide, rfl⟩

theorem understood_notIn (operands : List Json) :
    Understood field "$nin" (.arr operands) (.notAmong operands) :=
  ⟨rfl, by decide, rfl⟩

theorem understood_eq (v : Json) :
    Understood field "$eq" v (if v.isNull then .isNull else .equals v) := by
  refine ⟨?_, by decide, rfl⟩
  cases v.isNull <;> rfl

theorem understood_ne (v : Json) : Understood field "$ne" v (.notEqual v) :=
  ⟨rfl, by decide, rfl⟩

/-- The test of `$eq` is the test of equality, with `null` as well. -/
theorem lower_eq {isArray nested : Bool} (v : Json) :
    (if v.isNull then Constraint.isNull else .equals v).lower field isArray nested =
      Constraint.lowerEquals field isArray nested v := by
  cases hnull : v.isNull with
  | true => simp [Constraint.lower, Constraint.lowerEquals, hnull]
  | false => simp [Constraint.lower]

/-! ### Opposite queries -/

/-- Of two conditions with these truth values, exactly one selects the row. -/
def Opposite (a b : Option Truth) : Prop :=
  ∃ t u, a = some t ∧ b = some u ∧ (t = .yes ↔ u ≠ .yes)

variable (φ : Facts) {operands : List Json} {m : Json}

theorem compiles_in_iff_notIn :
    Compiles schema field "$in" (.arr operands) ↔ Compiles schema field "$nin" (.arr operands) := by
  rw [(understood_in operands).compiles_iff, (understood_notIn operands).compiles_iff]
  refine and_congr_right fun _ => ?_
  constructor
  · rintro ⟨t, type, htype, ht⟩
    obtain ⟨u, hu⟩ := Constraint.lowerAmong_iff_lowerNotAmong.1 ⟨t, ht⟩
    exact ⟨u, type, htype, hu⟩
  · rintro ⟨u, type, htype, hu⟩
    obtain ⟨t, ht⟩ := Constraint.lowerAmong_iff_lowerNotAmong.2 ⟨u, hu⟩
    exact ⟨t, type, htype, ht⟩

theorem opposite_in_notIn (hm : Constraint.IsMember m operands)
    (h : Compiles schema field "$in" (.arr operands)) :
    Opposite (truth? φ schema field "$in" (.arr operands))
      (truth? φ schema field "$nin" (.arr operands)) := by
  obtain ⟨hdollar, t, type, htype, ht⟩ := (understood_in operands).compiles_iff.1 h
  obtain ⟨u, hu⟩ := Constraint.lowerAmong_iff_lowerNotAmong.1 ⟨t, ht⟩
  obtain ⟨hcompares, hin⟩ := Constraint.truth_lowerAmong hm ht
  obtain ⟨hcompares', hnotIn⟩ := Constraint.truth_lowerNotAmong hm hu
  refine ⟨_, _, (understood_in operands).truth?_eq hdollar ⟨type, htype, ht⟩ hcompares,
    (understood_notIn operands).truth?_eq hdollar ⟨type, htype, hu⟩ hcompares', ?_⟩
  rw [hin, Ne, hnotIn, Bool.not_eq_false]

/-- A member selects the rows that have it. -/
theorem selects_eq_iff {type : FieldType} (htype : columnType? schema field = some type)
    (h : Compiles schema field "$eq" m)
    (hcomparable : m.isNull = false → Constraint.Comparable field
      (!(Target.ofName field).isNested && type.isArray) (Target.ofName field).isNested m) :
    Selects φ schema field "$eq" m ↔
      (if m.isNull then φ.isNull (Target.ofName field).tokens
        else !φ.isNull (Target.ofName field).tokens &&
          Constraint.hits φ (Target.ofName field).tokens field
            (!(Target.ofName field).isNested && type.isArray) (Target.ofName field).isNested m) =
        true := by
  obtain ⟨hdollar, t, type', htype', ht⟩ := (understood_eq m).compiles_iff.1 h
  obtain rfl : type = type' := Option.some.inj (htype.symm.trans htype')
  have hlower := ht
  rw [lower_eq] at hlower
  have htruth := (understood_eq m).truth?_eq (φ := φ) hdollar ⟨type, htype, ht⟩
    (Constraint.compares_lowerEquals hlower)
  rw [Selects, htruth, Option.some.injEq]
  exact Constraint.truth_lowerEquals hlower hcomparable

/-- **A list selects what its members select.** -/
theorem selects_in_iff (hne : ∃ m, Constraint.IsMember m operands)
    (h : Compiles schema field "$in" (.arr operands))
    (hall : ∀ m, Constraint.IsMember m operands → Compiles schema field "$eq" m) :
    Selects φ schema field "$in" (.arr operands) ↔
      ∃ m, Constraint.IsMember m operands ∧ Selects φ schema field "$eq" m := by
  obtain ⟨first, hfirst⟩ := hne
  obtain ⟨hdollar, t, type, htype, ht⟩ := (understood_in operands).compiles_iff.1 h
  obtain ⟨hcompares, hin⟩ := Constraint.truth_lowerAmong hfirst ht
  have htruth := (understood_in operands).truth?_eq (φ := φ) hdollar ⟨type, htype, ht⟩ hcompares
  rw [Selects, htruth, Option.some.injEq, hin, Constraint.isAmong, List.any_eq_true]
  refine exists_congr fun m => ?_
  rw [Constraint.mem_flatten]
  refine and_congr_right fun hm => ?_
  exact (selects_eq_iff φ htype (hall m hm)
    (Constraint.comparable_of_lowerAmong ht hm)).symm

theorem opposite_eq_ne {v : Json} (heq : Compiles schema field "$eq" v)
    (hne : Compiles schema field "$ne" v) :
    Opposite (truth? φ schema field "$eq" v) (truth? φ schema field "$ne" v) := by
  obtain ⟨hdollar, t, type, htype, ht⟩ := (understood_eq v).compiles_iff.1 heq
  obtain ⟨-, u, type', htype', hu⟩ := (understood_ne v).compiles_iff.1 hne
  obtain rfl : type = type' := Option.some.inj (htype.symm.trans htype')
  have hlower := ht
  rw [lower_eq] at hlower
  obtain ⟨hcompares, hcompares', hopposite⟩ :=
    Constraint.opposite_lowerEquals (φ := φ) (x := (Target.ofName field).tokens) hlower hu
  exact ⟨_, _, (understood_eq v).truth?_eq hdollar ⟨type, htype, ht⟩ hcompares,
    (understood_ne v).truth?_eq hdollar ⟨type, htype, hu⟩ hcompares', hopposite⟩

theorem selects_eq_null_iff (h : Compiles schema field "$eq" .null) :
    Selects φ schema field "$eq" .null ↔ φ.isNull (Target.ofName field).tokens = true := by
  obtain ⟨-, t, type, htype, -⟩ := (understood_eq .null).compiles_iff.1 h
  exact selects_eq_iff φ htype h (by simp [Json.isNull])

/-- **Queries and their negations select opposite rows**, whatever the row is.  For a list with some
member, `$in` compiles if and only if `$nin` does, and then exactly one of them selects the row; if
every member compiles with `$eq` too, `$in` selects what one of them selects, `null` asking for a
column that is `NULL`.  For one value, exactly one of `$eq` and `$ne` selects the row. -/
theorem selects_opposite (schema : ClassSchema) (field : String) (φ : Facts) :
    (∀ operands, (∃ m, Constraint.IsMember m operands) →
      (Compiles schema field "$in" (.arr operands) ↔
        Compiles schema field "$nin" (.arr operands)) ∧
      (Compiles schema field "$in" (.arr operands) →
        Opposite (truth? φ schema field "$in" (.arr operands))
          (truth? φ schema field "$nin" (.arr operands)) ∧
        ((∀ m, Constraint.IsMember m operands → Compiles schema field "$eq" m) →
          (Selects φ schema field "$in" (.arr operands) ↔
            ∃ m, Constraint.IsMember m operands ∧ Selects φ schema field "$eq" m)))) ∧
    (Compiles schema field "$eq" .null →
      (Selects φ schema field "$eq" .null ↔ φ.isNull (Target.ofName field).tokens = true)) ∧
    ∀ v, Compiles schema field "$eq" v → Compiles schema field "$ne" v →
      Opposite (truth? φ schema field "$eq" v) (truth? φ schema field "$ne" v) := by
  refine ⟨fun operands hne => ⟨compiles_in_iff_notIn, fun h => ⟨?_, selects_in_iff φ hne h⟩⟩,
    selects_eq_null_iff φ, fun v => opposite_eq_ne φ⟩
  obtain ⟨m, hm⟩ := hne
  exact opposite_in_notIn φ hm h

/-- Labels, one of which is missing and one in an inner list. -/
def labels : List Json := [.null, .str "a", .arr [.str "b"]]

/-- A row with the label "b". -/
def rowB : Facts where
  isNull _ := false
  equals _ v := v == (Param.text "b").token
  contains _ _ := false
  isAt _ _ := false

theorem selects_opposite_labels :
    ask pairSchema "label" "$in" (.arr labels) =
      .ok "(`label` IS NULL OR `label` IN ('a', 'b'))" ∧
    ask pairSchema "label" "$nin" (.arr labels) =
      .ok "(`label` IS NOT NULL AND `label` NOT IN ('a', 'b'))" ∧
    Selects rowB pairSchema "label" "$in" (.arr labels) ∧
    Opposite (truth? rowB pairSchema "label" "$in" (.arr labels))
      (truth? rowB pairSchema "label" "$nin" (.arr labels)) ∧
    (Selects rowB pairSchema "label" "$in" (.arr labels) ↔
      ∃ m, Constraint.IsMember m labels ∧ Selects rowB pairSchema "label" "$eq" m) ∧
    (Selects rowB pairSchema "label" "$eq" .null ↔ False) ∧
    Opposite (truth? rowB pairSchema "label" "$eq" (.str "b"))
      (truth? rowB pairSchema "label" "$ne" (.str "b")) := by
  have hlabels : ∃ m, Constraint.IsMember m labels := ⟨.null, .inl ⟨List.mem_cons_self, rfl⟩⟩
  have hin : ask pairSchema "label" "$in" (.arr labels) =
      .ok "(`label` IS NULL OR `label` IN ('a', 'b'))" := by decide +kernel
  have hnull : Compiles pairSchema "label" "$eq" .null := ⟨"`label` IS NULL", by decide +kernel⟩
  have heq : ∀ s, s = "a" ∨ s = "b" → Compiles pairSchema "label" "$eq" (.str s) := by
    rintro s (rfl | rfl)
    · exact ⟨"`label` = 'a'", by decide +kernel⟩
    · exact ⟨"`label` = 'b'", by decide +kernel⟩
  have hne : Compiles pairSchema "label" "$ne" (.str "b") :=
    ⟨"(`label` <> 'b' OR `label` IS NULL)", by decide +kernel⟩
  have hall : ∀ m, Constraint.IsMember m labels → Compiles pairSchema "label" "$eq" m := by
    intro m hm
    have hmem : m ∈ [.null, .str "a", .str "b"] := Constraint.mem_flatten.2 hm
    simp only [List.mem_cons, List.not_mem_nil, or_false] at hmem
    rcases hmem with rfl | rfl | rfl
    · exact hnull
    · exact heq "a" (.inl rfl)
    · exact heq "b" (.inr rfl)
  obtain ⟨hlist, habsent, hvalue⟩ := selects_opposite pairSchema "label" rowB
  obtain ⟨hopposite, hmembers⟩ := (hlist labels hlabels).2 ⟨_, hin⟩
  have hselects : truth? rowB pairSchema "label" "$in" (.arr labels) = some .yes := by
    decide +kernel
  refine ⟨hin, by decide +kernel, hselects, hopposite, hmembers hall, ?_,
    hvalue _ (heq "b" (.inr rfl)) hne⟩
  rw [habsent hnull]
  simp [rowB]

end Query

end DocStore
