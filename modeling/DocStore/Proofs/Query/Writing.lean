import DocStore.Proofs.Query.Scope
import DocStore.Proofs.Result
import DocStore.Proofs.Sql.Numbering
import DocStore.Query.Lowering
import Mathlib.Data.List.Basic

/-!
# Writing a query in one pass

A query can be written while it is read: every clause takes the numbers of its placeholders from one
list of parameters, and tests add the orders and the relevance that they ask for as they come
(`Query.write`).  A filter is written otherwise, each part on its own, and parts are moved behind
each other when they are put together.  Both give the same (`Query.compile_eq_write`).
-/

namespace DocStore

open Sql

/-! ### Moving conditions -/

section Shift

variable (k n : Nat)

theorem Target.shift_text (x : Target) : (x.text n).shift k = x.text (n + k) := by
  unfold text
  split
  · simp [Nat.add_right_comm]
  · simp

namespace Test

variable (x : Template)

theorem shift_containment (expected : String) :
    (containment x n expected).shift k = containment (x.shift k) (n + k) expected := by
  simp [containment]

theorem map_shift_containments (expected : String) (count : Nat) :
    (containments x expected n count).map (Template.shift k) =
      containments (x.shift k) expected (n + k) count :=
  map_shift_range' (fun i => shift_containment k i x expected) n count 1

theorem shift_distance : (distance x n).shift k = distance (x.shift k) (n + k) := by
  simp [distance]

theorem shift_relevance : (relevance x n).shift k = relevance (x.shift k) (n + k) := by
  simp [relevance]

/-- **A condition that is moved** is the condition on what its target has become, numbered from
further on. -/
theorem shift_condition (t : Test) :
    (t.condition x n).shift k = t.condition (x.shift k) (n + k) := by
  induction t with
  | among operands | notAmong operands =>
    simp [condition, Template.shift_join, map_shift_slotsFrom]
  | holds items | lacks items => exact shift_containment k n x _
  | holdsAny items | holdsNone items =>
    simp [condition, Template.shift_join, map_shift_containments]
  | text term => exact shift_relevance k n x
  | near origin reach =>
    cases reach <;> simp [condition, shift_distance, Nat.add_right_comm]
  | orNull test ih | nullOr test ih | presentAnd test ih => simp [condition, ih]
  | _ => simp [condition]

theorem shift_sort? (t : Test) :
    (t.sort? x n).map (Template.shift k) = t.sort? (x.shift k) (n + k) := by
  cases t <;> simp [sort?, shift_distance]

theorem shift_score? (t : Test) :
    (t.score? x n).map (Template.shift k) = t.score? (x.shift k) (n + k) := by
  cases t <;> simp [score?, shift_relevance]

end Test

end Shift

/-! ### One pass -/

/-- What the tests of a query ask for besides their conditions. -/
structure Wishes where
  /-- Order items of distance tests. -/
  sorts : List Template
  /-- The relevance of the first text test. -/
  score : Option Template

/-- Writing a query with the parameters and wishes so far at hand. -/
abbrev Writing := StateT Wishes Listing

namespace Writing

/-- Ask for an order. -/
def orderBy (item : Template) : Writing Unit :=
  modify fun asked => { asked with sorts := asked.sorts ++ [item] }

/-- Give a relevance, unless there is one. -/
def rateBy (relevance : Template) : Writing Unit :=
  modify fun asked => { asked with score := asked.score <|> some relevance }

end Writing

open Listing (push)

/-- Write the expression of a target. -/
def Target.write (x : Target) : Listing Template := do
  let column ← push (.ident x.column)
  if x.isNested then
    let path ← push (.text (jsonPath x.path))
    return sql [column, "->>", path]
  else return column

namespace Test

variable (x : Template)

/-- Write whether an array holds all items of a parameter. -/
def writeContainment (expected : String) (candidate : Param) : Listing Template := do
  let candidate ← push candidate
  return sql ["JSON_CONTAINS(", x, ", ", candidate, ") = ", expected]

/-- Write the relevance for a term. -/
def writeRelevance (term : String) : Listing Template := do
  let term ← push (.text term)
  return sql ["MATCH (", x, ") AGAINST (", term, ")"]

/-- Write the distance from a point. -/
def writeDistance (origin : GeoPoint) : Listing Template := do
  let origin ← push (.text origin.wkt)
  return sql ["ST_Distance_Sphere(", x, ", ST_GeomFromText(", origin, "))"]

/-- Write that a distance is in reach; every distance is, if there is no limit. -/
def writeReach (distance : Template) : Option Binary64 → Listing Template
  | none => return sql [x, " IS NOT NULL"]
  | some meters => do
    let limit ← push (.value (.ofFloat meters))
    return sql [distance, " <= ", limit]

/-- Write the condition of a test. -/
def writeCondition : Test → Listing Template
  | .always => return "TRUE"
  | .isNull => return sql [x, " IS NULL"]
  | .isPresent => return sql [x, " IS NOT NULL"]
  | .scalar relation operand => do
    let value ← push (.value operand)
    return sql [x, " ", relation.symbol, " ", value]
  | .among operands => do
    let values ← operands.mapM fun v => push (.value v)
    return sql [x, " IN (", .join ", " values, ")"]
  | .notAmong operands => do
    let values ← operands.mapM fun v => push (.value v)
    return sql [x, " NOT IN (", .join ", " values, ")"]
  | .holds items => writeContainment x "1" (.json (.arr items))
  | .lacks items => writeContainment x "0" (.json (.arr items))
  | .holdsAny items => do
    let tests ← items.mapM fun v => writeContainment x "1" (.json (.arr [v]))
    return sql ["(", .join " OR " tests, ")"]
  | .holdsNone items => do
    let tests ← items.mapM fun v => writeContainment x "0" (.json (.arr [v]))
    return sql ["(", .join " AND " tests, ")"]
  | .atPoint wkt => do
    let point ← push (.text wkt)
    return sql ["ST_Equals(", x, ", ST_GeomFromText(", point, "))"]
  | .notAtPoint wkt => do
    let point ← push (.text wkt)
    return sql ["NOT ST_Equals(", x, ", ST_GeomFromText(", point, "))"]
  | .regex pattern => do
    let regex ← push (.text pattern)
    return sql ["REGEXP_LIKE(", x, ", ", regex, ", 'c')"]
  | .text term => writeRelevance x term
  | .near origin reach => do
    let distance ← writeDistance x origin
    writeReach x distance reach
  | .inBox corner opposite => do
    let polygon ← push (.text (GeoPoint.polygonWkt (boxRing corner opposite)))
    return sql ["MBRCovers(ST_GeomFromText(", polygon, "), ", x, ")"]
  | .inPolygon ring => do
    let polygon ← push (.text (GeoPoint.polygonWkt ring))
    return sql ["ST_Contains(ST_GeomFromText(", polygon, "), ", x, ")"]
  | .orNull test => do
    let condition ← writeCondition test
    return sql ["(", condition, " OR ", x, " IS NULL)"]
  | .nullOr test => do
    let condition ← writeCondition test
    return sql ["(", x, " IS NULL OR ", condition, ")"]
  | .presentAnd test => do
    let condition ← writeCondition test
    return sql ["(", x, " IS NOT NULL AND ", condition, ")"]

/-- Write a test.  A text test gives its relevance, and a distance test asks for an order. -/
def write : Test → Writing Template
  | .text term => do
    let relevance ← writeRelevance x term
    Writing.rateBy relevance
    return relevance
  | .near origin reach => do
    let distance ← writeDistance x origin
    Writing.orderBy (sql [distance, " ASC"])
    writeReach x distance reach
  | t => writeCondition x t

end Test

/-- Understand and write the constraints on one field; `none` if they hold of every row. -/
def Clause.writeField (storage : ClassSchema) (name : String) (constraints : List Constraint) :
    Writing (Option Template) :=
  let target := Target.ofName name
  match storage.fieldType? target.column with
  | none =>
    if !constraints.isEmpty && constraints.all Constraint.asksAbsence then return none
    else throw (.unknownField storage.className name)
  | some type =>
    if constraints.isEmpty then throw (.unsupportedQuery name "empty constraint")
    else do
      let isArray := !target.isNested && type.isArray
      let x ← (target.write : Listing Template)
      let conditions ← constraints.mapM fun c => do
        let test ← (c.lower name isArray target.isNested : Except Fault Test)
        test.write x
      return some (.join " AND " conditions)

mutual

/-- Understand and write one clause. -/
def Clause.write (storage : ClassSchema) : Clause → Writing (Option Template)
  | .field name constraints => Clause.writeField storage name constraints
  | .connect connective queries => do
    let parts ← Clause.writeGroup storage queries
    return some (sql ["(", .join (" " ++ connective.symbol ++ " ") parts, ")"])

/-- Understand and write clauses in order. -/
def Clause.writeAll (storage : ClassSchema) : List Clause → Writing (List Template)
  | [] => return []
  | c :: cs => do
    let first ← Clause.write storage c
    let others ← Clause.writeAll storage cs
    return first.toList ++ others

/-- Understand and write connected queries. -/
def Clause.writeGroup (storage : ClassSchema) : List (List Clause) → Writing (List Template)
  | [] => return []
  | q :: qs => do
    let conditions ← Clause.writeAll storage q
    let pattern := Template.join " AND " conditions
    let others ← Clause.writeGroup storage qs
    return (if pattern.isEmpty then "TRUE" else pattern) :: others

end

/-- Understand and write a query, its placeholders numbered from `start`. -/
def Query.write (schema : ClassSchema) (q : Query) (start : Nat) : Except Fault WhereClause := do
  let ((conditions, asked), written) ←
    ((Clause.writeAll schema.storage q).run ⟨[], none⟩).run (.startingAt start)
  return ⟨.join " AND " conditions, written.items, asked.sorts, asked.score⟩

/-! ### What is written -/

/-- The number of parameters that conditions have together. -/
def WhereClause.count : List WhereClause → Nat
  | [] => 0
  | w :: ws => w.params.length + count ws

theorem WhereClause.count_eq (ws : List WhereClause) : count ws = (ws.flatMap params).length := by
  induction ws with
  | nil => rfl
  | cons w rest ih => rw [count, ih, List.flatMap_cons, List.length_append]

/-- The wishes with those of conditions behind them. -/
def Wishes.with (asked : Wishes) (ws : List WhereClause) : Wishes :=
  ⟨asked.sorts ++ ws.flatMap WhereClause.sorts,
    asked.score <|> ws.findSome? WhereClause.score⟩

namespace Writing

variable {α β : Type} {m : Writing α} {n : Nat} {a : α} {ws : List WhereClause}

/-- From number `n` on, `a` is given, and parameters are appended and wishes added as conditions
have them. -/
def Yields (m : Writing α) (n : Nat) (a : α) (ws : List WhereClause) : Prop :=
  ∀ asked : Wishes, (m.run asked).Yields n (a, asked.with ws) (ws.flatMap WhereClause.params)

/-- From number `n` on, there is a fault. -/
def Fails (m : Writing α) (n : Nat) (fault : Fault) : Prop :=
  ∀ asked : Wishes, (m.run asked).Fails n fault

theorem yields_pure (a : α) (n : Nat) : (pure a : Writing α).Yields n a [] := by
  intro asked
  have hsame : asked.with [] = asked := by simp [Wishes.with]
  rw [hsame]
  exact Listing.yields_pure _ n

theorem Yields.bind {f : α → Writing β} {b : β} {vs : List WhereClause} (hm : m.Yields n a ws)
    (hf : (f a).Yields (n + WhereClause.count ws) b vs) :
    (m >>= f).Yields n b (ws ++ vs) := by
  intro asked
  have hboth : (asked.with ws).with vs = asked.with (ws ++ vs) := by
    simp [Wishes.with, List.findSome?_append, Option.orElse_eq_or, Option.or_assoc]
  rw [WhereClause.count_eq] at hf
  rw [← hboth, StateT.run_bind]
  exact (hm asked).bind (hf (asked.with ws)) List.flatMap_append.symm

theorem Yields.map {g : α → β} (hm : m.Yields n a ws) :
    (m >>= fun a => pure (g a)).Yields n (g a) ws := by
  have hbind := hm.bind (f := fun a => pure (g a)) (yields_pure (g a) _)
  rwa [List.append_nil] at hbind

theorem Yields.bind_fails {f : α → Writing β} {fault : Fault} (hm : m.Yields n a ws)
    (hf : (f a).Fails (n + WhereClause.count ws) fault) :
    (m >>= f).Fails n fault := by
  intro asked
  rw [WhereClause.count_eq] at hf
  rw [StateT.run_bind]
  exact (hm asked).bind_fails (hf (asked.with ws))

theorem Fails.bind {fault : Fault} (hm : m.Fails n fault) (f : α → Writing β) :
    (m >>= f).Fails n fault := by
  intro asked
  rw [StateT.run_bind]
  exact (hm asked).bind _

theorem fails_throw (fault : Fault) (n : Nat) : (throw fault : Writing α).Fails n fault :=
  fun _ => Listing.fails_throw fault n

/-- Only the parameters and wishes of the conditions count. -/
theorem Yields.congr {vs : List WhereClause} (hm : m.Yields n a ws)
    (hparams : vs.flatMap WhereClause.params = ws.flatMap WhereClause.params)
    (hsorts : vs.flatMap WhereClause.sorts = ws.flatMap WhereClause.sorts)
    (hscore : vs.findSome? WhereClause.score = ws.findSome? WhereClause.score) :
    m.Yields n a vs := by
  intro asked
  have hwith : asked.with vs = asked.with ws := by rw [Wishes.with, hsorts, hscore, ← Wishes.with]
  rw [hparams, hwith]
  exact hm asked

end Writing

/-- Nothing but parameters. -/
def WhereClause.ofParams (params : List Param) : WhereClause := ⟨[], params, [], .none⟩

namespace Writing

theorem yields_lift {α : Type} {m : Listing α} {n : Nat} {a : α} {more : List Param}
    (h : m.Yields n a more) : (liftM m : Writing α).Yields n a [.ofParams more] := by
  intro asked
  have hsame : asked.with [.ofParams more] = asked := by simp [Wishes.with, WhereClause.ofParams]
  rw [hsame]
  exact h.bind (f := fun a => pure (a, asked)) (Listing.yields_pure _ _)
    (by simp [WhereClause.ofParams])

theorem yields_orderBy (item : Template) (n : Nat) :
    (orderBy item).Yields n () [⟨[], [], [item], none⟩] := by
  intro asked
  have hadded : asked.with [⟨[], [], [item], none⟩] = ⟨asked.sorts ++ [item], asked.score⟩ := by
    simp [Wishes.with]
  rw [hadded]
  exact Listing.yields_pure _ n

theorem yields_rateBy (relevance : Template) (n : Nat) :
    (rateBy relevance).Yields n () [⟨[], [], [], some relevance⟩] := by
  intro asked
  have hadded : asked.with [⟨[], [], [], some relevance⟩] =
      ⟨asked.sorts, asked.score <|> some relevance⟩ := by
    simp [Wishes.with]
  rw [hadded]
  exact Listing.yields_pure _ n

end Writing

theorem Target.yields_write (x : Target) (n : Nat) : x.write.Yields n (x.text n) x.params := by
  have hcolumn := Listing.yields_push (.ident x.column) n
  have hpath := Listing.yields_push (.text (jsonPath x.path)) (n + 1)
  unfold Target.write Target.text Target.params
  by_cases hnested : x.isNested = true
  · simp only [hnested, if_true]
    exact hcolumn.bind hpath.map rfl
  · simp only [hnested]
    exact hcolumn.map

namespace Test

variable {x : Template} {n : Nat}

theorem yields_writeContainment (x : Template) (expected : String) (candidate : Param) (n : Nat) :
    (writeContainment x expected candidate).Yields n (containment x n expected) [candidate] :=
  Listing.Yields.map (Listing.yields_push candidate n)

theorem yields_writeRelevance (x : Template) (term : String) (n : Nat) :
    (writeRelevance x term).Yields n (relevance x n) [.text term] :=
  Listing.Yields.map (Listing.yields_push _ n)

theorem yields_writeDistance (x : Template) (origin : GeoPoint) (n : Nat) :
    (writeDistance x origin).Yields n (distance x n) [.text origin.wkt] :=
  Listing.Yields.map (Listing.yields_push _ n)

/-- The reach is written behind the distance of parameter `n`. -/
theorem yields_writeReach (x : Template) (n : Nat) (origin : GeoPoint) (reach : Option Binary64) :
    (writeReach x (distance x n) reach).Yields (n + 1) ((near origin reach).condition x n)
      (reach.map fun m => .value (.ofFloat m)).toList := by
  cases reach with
  | none => exact Listing.yields_pure _ (n + 1)
  | some meters =>
    exact Listing.Yields.map (Listing.yields_push (.value (.ofFloat meters)) (n + 1))

/-- **A condition is written with its numbers**: what is pushed before it decides on them. -/
theorem yields_writeCondition (t : Test) :
    (t.writeCondition x).Yields n (t.condition x n) t.params := by
  induction t with
  | always | isNull | isPresent => exact Listing.yields_pure _ n
  | scalar | atPoint | notAtPoint | regex | inBox | inPolygon =>
    exact Listing.Yields.map (Listing.yields_push _ n)
  | among operands | notAmong operands =>
    exact Listing.Yields.map
      (Listing.yields_mapM (fun v n => Listing.yields_push _ n) operands n)
  | holds items | lacks items => exact yields_writeContainment x _ _ n
  | holdsAny items | holdsNone items =>
    exact Listing.Yields.map
      (Listing.yields_mapM (fun v n => yields_writeContainment x _ _ n) items n)
  | text term => exact yields_writeRelevance x term n
  | near origin reach =>
    exact (yields_writeDistance x origin n).bind (yields_writeReach x n origin reach) rfl
  | orNull test ih | nullOr test ih | presentAnd test ih => exact Listing.Yields.map ih

/-- A test as a condition of its own, with its numbers. -/
def written (x : Template) (n : Nat) (t : Test) : WhereClause :=
  ⟨t.condition x n, t.params, (t.sort? x n).toList, t.score? x n⟩

theorem yields_write (t : Test) : (t.write x).Yields n (t.condition x n) [t.written x n] := by
  cases t with
  | text term =>
    have hrelevance := Writing.yields_lift (yields_writeRelevance x term n)
    have hrate := (Writing.yields_rateBy (relevance x n) (n + 1)).map (g := fun _ => relevance x n)
    exact (hrelevance.bind (f := fun r => Writing.rateBy r >>= fun _ => pure r) hrate).congr
      rfl rfl rfl
  | near origin reach =>
    have hdistance := Writing.yields_lift (yields_writeDistance x origin n)
    have horder := Writing.yields_orderBy (sql [distance x n, " ASC"]) (n + 1)
    have hreach := Writing.yields_lift (yields_writeReach x n origin reach)
    exact (hdistance.bind (f := fun d => Writing.orderBy (sql [d, " ASC"]) >>= fun _ =>
      (writeReach x d reach : Listing Template)) (horder.bind hreach)).congr
        (by simp [written, WhereClause.ofParams, params]) rfl rfl
  | _ => exact (Writing.yields_lift (yields_writeCondition _)).congr rfl rfl rfl

/-- Tests that are numbered from further on. -/
theorem numbered_add (n k : Nat) (tests : List Test) :
    numbered (n + k) tests = (numbered n tests).map fun e => (e.1 + k, e.2) := by
  induction tests generalizing n with
  | nil => rfl
  | cons t rest ih =>
    rw [numbered, Nat.add_right_comm, ih]
    rfl

end Test

theorem Test.map_snd_numbered (n : Nat) (tests : List Test) :
    (numbered n tests).map Prod.snd = tests := by
  induction tests generalizing n with
  | nil => rfl
  | cons t rest ih => rw [numbered, List.map_cons, ih]

/-- The first value, changed. -/
theorem map_findSome? {α β γ : Type} (f : α → Option β) (g : β → γ) (as : List α) :
    (as.findSome? f).map g = as.findSome? fun a => (f a).map g := by
  induction as with
  | nil => rfl
  | cons a rest ih =>
    rw [List.findSome?_cons, List.findSome?_cons]
    cases f a with
    | none => exact ih
    | some b => rfl

/-- Tests of one target behind `k` parameters: the tests are written one behind the other. -/
theorem WhereClause.shift_ofTests (k : Nat) (x : Target) (tests : List Test) :
    let ws := (Test.numbered (k + 1 + x.params.length) tests).map fun t =>
      t.2.written (x.text (k + 1)) t.1
    (ofTests x tests).shift k = ⟨.join " AND " (ws.map pattern),
      x.params ++ ws.flatMap params, ws.flatMap sorts, ws.findSome? score⟩ := by
  have hnumbered : Test.numbered (k + 1 + x.params.length) tests =
      (Test.numbered (x.params.length + 1) tests).map fun e => (e.1 + k, e.2) := by
    rw [← Test.numbered_add]
    congr 1
    omega
  have hx : (x.text 1).shift k = x.text (k + 1) := by rw [x.shift_text, Nat.add_comm]
  have hparams : tests.flatMap Test.params =
      (Test.numbered (x.params.length + 1) tests).flatMap fun e => e.2.params := by
    rw [← List.flatMap_map Prod.snd Test.params, Test.map_snd_numbered]
  intro ws
  simp only [ws, hnumbered, shift, ofTests, Template.shift_join, List.map_map, List.flatMap_map,
    Function.comp_def, Test.shift_condition, hx, List.map_filterMap, Test.shift_sort?,
    List.findSome?_map, Test.written, hparams, ← List.filterMap_eq_flatMap_toList,
    map_findSome?, Test.shift_score?]

namespace WhereClause

/-- Conditions one behind the other, the first behind `k` parameters. -/
def placed (k : Nat) : List WhereClause → List WhereClause
  | [] => []
  | w :: ws => w.shift k :: placed (k + w.params.length) ws

theorem shift_shift (w : WhereClause) (j k : Nat) : (w.shift j).shift k = w.shift (j + k) := by
  simp [shift, Template.shift_shift, Function.comp_def]

theorem shift_parenthesized (w : WhereClause) (k : Nat) :
    w.parenthesized.shift k = (w.shift k).parenthesized := by
  simp [shift, parenthesized]

theorem shift_spelled (w : WhereClause) (k : Nat) : w.spelled.shift k = (w.shift k).spelled := by
  rw [spelled, spelled, condition_shift]
  rfl

/-- Two conditions behind `k` parameters: the second stands behind the parameters of the first. -/
theorem shift_beside (separator : String) (a b : WhereClause) (k : Nat) :
    let a' := a.shift k
    let b' := b.shift (k + a.params.length)
    (a.beside separator b).shift k = ⟨sql [a'.pattern, separator, b'.pattern],
      a'.params ++ b'.params, a'.sorts ++ b'.sorts, a'.score <|> b'.score⟩ := by
  have hb : (b.shift a.params.length).shift k = b.shift (k + a.params.length) := by
    rw [shift_shift, Nat.add_comm]
  intro a' b'
  simp only [b', ← hb]
  cases hscore : a.score <;> simp [beside, shift, a', hscore]

/-- Conditions that are put together behind `k` parameters stand one behind the other. -/
theorem shift_join (separator : String) (ws : List WhereClause) (k : Nat) :
    (join separator ws).shift k =
      ⟨.join separator ((placed k ws).map pattern), (placed k ws).flatMap params,
        (placed k ws).flatMap sorts, (placed k ws).findSome? score⟩ := by
  induction ws generalizing k with
  | nil => rfl
  | cons w rest ih =>
    cases rest with
    | nil => cases hscore : w.score <;> simp [join, placed, Template.join, shift, hscore]
    | cons v rest =>
      have hjoin : join separator (w :: v :: rest) =
          w.beside separator (join separator (v :: rest)) := rfl
      rw [hjoin, shift_beside, ih (k + w.params.length)]
      cases hscore : (w.shift k).score <;>
        simp [placed, Template.join_cons_cons, sql, List.findSome?_cons, hscore]

end WhereClause

/-! ### The pass over a query -/

namespace Writing

variable {α β : Type} {m : Writing α} {n : Nat}

/-- From number `n` on, writing ends as a result says. -/
def Follows (m : Writing α) (n : Nat) : Except Fault (α × List WhereClause) → Prop
  | .ok (a, ws) => m.Yields n a ws
  | .error fault => m.Fails n fault

/-- What follows a part, from the number on to which that has come. -/
theorem Yields.bind_follows {a : α} {ws : List WhereClause} {f : α → Writing β}
    {r : Except Fault (β × List WhereClause)} (hm : m.Yields n a ws)
    (hf : (f a).Follows (n + WhereClause.count ws) r) :
    (m >>= f).Follows n (r.map fun y => (y.1, ws ++ y.2)) := by
  cases r with
  | error fault => exact hm.bind_fails hf
  | ok y => exact hm.bind hf

theorem Follows.bind {f : α → Writing β} {r : Except Fault (α × List WhereClause)}
    {s : α → Nat → Except Fault (β × List WhereClause)} (hm : m.Follows n r)
    (hf : ∀ a k, (f a).Follows k (s a k)) :
    (m >>= f).Follows n (r >>= fun x =>
      (s x.1 (n + WhereClause.count x.2)).map fun y => (y.1, x.2 ++ y.2)) := by
  cases r with
  | error fault => exact Fails.bind hm f
  | ok x => exact Yields.bind_follows hm (hf x.1 _)

theorem Follows.map {r : Except Fault (α × List WhereClause)} (hm : m.Follows n r) (g : α → β) :
    (m >>= fun a => pure (g a)).Follows n (r.map fun x => (g x.1, x.2)) := by
  cases r with
  | error fault => exact Fails.bind hm _
  | ok x => exact Yields.map hm

/-- A step that needs no writing. -/
theorem follows_lift (r : Except Fault α) (n : Nat) :
    (liftM r : Writing α).Follows n (r.map fun a => (a, [])) := by
  cases r with
  | ok a => exact yields_pure a n
  | error fault => exact fails_throw fault n

end Writing

/-- Understanding and writing constraints in turn, and what is understood of all of them. -/
theorem Clause.follows_constraints (x : Template) (lower : Constraint → Except Fault Test)
    (constraints : List Constraint) (n : Nat) :
    Writing.Follows (constraints.mapM fun c => do
        let test ← (lower c : Except Fault Test)
        test.write x) n
      ((constraints.mapM lower).map fun tests =>
        let ws := (Test.numbered n tests).map fun t => t.2.written x t.1
        (ws.map WhereClause.pattern, ws)) := by
  induction constraints generalizing n with
  | nil => exact Writing.yields_pure [] n
  | cons c rest ih =>
    rw [List.mapM_cons, List.mapM_cons]
    have hfirst : Writing.Follows (do
        let test ← (lower c : Except Fault Test)
        test.write x) n ((lower c).map fun t => (t.condition x n, [t.written x n])) := by
      have hwrite := (Writing.follows_lift (lower c) n).bind
        (f := fun t : Test => t.write x)
        (s := fun t k => .ok (t.condition x k, [t.written x k])) fun t k => t.yields_write
      cases hc : lower c <;> rw [hc] at hwrite <;> exact hwrite
    have hboth := hfirst.bind fun a k => (ih k).map (a :: ·)
    cases hc : lower c with
    | error fault =>
      rw [hc] at hboth
      exact hboth
    | ok t =>
      rw [hc] at hboth
      cases hrest : rest.mapM lower with
      | error fault =>
        rw [hrest] at hboth
        exact hboth
      | ok tests =>
        rw [hrest] at hboth
        exact hboth

/-- Conditions that were written in order count as the condition that they make. -/
theorem Writing.Yields.joined {α : Type} {m : Writing α} {n k : Nat} {a : α}
    {ws : List WhereClause} (h : m.Yields n a (WhereClause.placed k ws)) {w : WhereClause}
    (separator : String) (hparams : w.params = (WhereClause.join separator ws).params)
    (hsorts : w.sorts = (WhereClause.join separator ws).sorts)
    (hscore : w.score = (WhereClause.join separator ws).score) : m.Yields n a [w.shift k] := by
  have hjoin := WhereClause.shift_join separator ws k
  have hw : w.shift k = { (WhereClause.join separator ws).shift k with
      pattern := w.pattern.shift k } := by
    rw [WhereClause.shift, hparams, hsorts, hscore]
    rfl
  rw [hjoin] at hw
  refine h.congr ?_ ?_ ?_
  · rw [hw]
    simp
  · rw [hw]
    simp
  · rw [hw]
    cases (WhereClause.placed k ws).findSome? WhereClause.score <;> rfl

namespace Clause

/-- What is understood of one clause, written behind `k` parameters. -/
def lowered (k : Nat) (r : Option RowClause) : Option Template × List WhereClause :=
  (r.map fun c => (c.whereClause.shift k).pattern, (r.map fun c => c.whereClause.shift k).toList)

/-- Conditions in order, written behind `k` parameters. -/
def listed (k : Nat) (ws : List WhereClause) : List Template × List WhereClause :=
  ((WhereClause.placed k ws).map WhereClause.pattern, WhereClause.placed k ws)

/-- The first clause, if it does not hold of every row, and the others behind its parameters. -/
theorem listed_cons (k : Nat) (r : Option RowClause) (f : Filter) :
    let others := listed (k + WhereClause.count (lowered k r).2) (RowClause.clauseParts f)
    listed k (RowClause.clauseParts (r.toList ++ f)) =
      ((lowered k r).1.toList ++ others.1, (lowered k r).2 ++ others.2) := by
  cases r <;> rfl

/-- The tests of one target. -/
theorem follows_tests (target : Target) (lower : Constraint → Except Fault Test)
    (constraints : List Constraint) (k : Nat) :
    Writing.Follows (do
        let x ← (target.write : Listing Template)
        let conditions ← constraints.mapM fun c => do
          let test ← (lower c : Except Fault Test)
          test.write x
        return some (.join " AND " conditions)) (k + 1)
      ((constraints.mapM lower).map fun tests => lowered k (some (.tests target tests))) := by
  have htarget := Writing.yields_lift (target.yields_write (k + 1))
  have hconditions := follows_constraints (target.text (k + 1)) lower constraints
    (k + 1 + target.params.length)
  cases htests : constraints.mapM lower with
  | error fault =>
    rw [htests] at hconditions
    exact htarget.bind_fails (Writing.Fails.bind hconditions _)
  | ok tests =>
    rw [htests] at hconditions
    have hshift := WhereClause.shift_ofTests k target tests
    have hjoined := Writing.Yields.map (g := fun cs => some (Template.join " AND " cs)) hconditions
    change Writing.Yields _ (k + 1) (some ((WhereClause.ofTests target tests).shift k).pattern)
      [(WhereClause.ofTests target tests).shift k]
    rw [hshift]
    refine (htarget.bind hjoined).congr ?_ ?_ ?_
    · simp [WhereClause.ofParams]
    · simp [WhereClause.ofParams]
    · rw [List.findSome?_singleton]
      rfl

variable (storage : ClassSchema)

theorem follows_writeField (name : String) (constraints : List Constraint) (k : Nat) :
    (writeField storage name constraints).Follows (k + 1)
      ((lowerField storage name constraints).map (lowered k)) := by
  unfold writeField lowerField
  dsimp only
  cases htype : storage.fieldType? (Target.ofName name).column with
  | none =>
    dsimp only
    by_cases habsent : (!constraints.isEmpty && constraints.all Constraint.asksAbsence) = true
    · rw [if_pos habsent, if_pos habsent]
      exact Writing.yields_pure none (k + 1)
    · rw [if_neg habsent, if_neg habsent]
      exact Writing.fails_throw _ (k + 1)
  | some type =>
    dsimp only
    by_cases hempty : constraints.isEmpty = true
    · rw [if_pos hempty, if_pos hempty]
      exact Writing.fails_throw _ (k + 1)
    · rw [if_neg hempty, if_neg hempty]
      let target := Target.ofName name
      let lower := Constraint.lower name (!target.isNested && type.isArray) target.isNested
      have htests := follows_tests target lower constraints k
      cases hlower : constraints.mapM lower <;> rw [hlower] at htests <;> exact htests

mutual

theorem follows_write : (c : Clause) → (k : Nat) →
    (write storage c).Follows (k + 1) ((lower storage c).map (lowered k))
  | .field name constraints, k => by
    rw [write, lower]
    exact follows_writeField storage name constraints k
  | .connect connective queries, k => by
    rw [write, lower]
    have hparts := follows_writeGroup queries k
    cases hlower : lowerGroup storage queries with
    | error fault =>
      rw [hlower] at hparts
      exact Writing.Fails.bind hparts _
    | ok filters =>
      rw [hlower] at hparts
      have hshift := WhereClause.shift_join (" " ++ connective.symbol ++ " ")
        (RowClause.groupParts filters) k
      change Writing.Yields _ (k + 1) (some ((RowClause.group connective filters).whereClause.shift
        k).pattern) [(RowClause.group connective filters).whereClause.shift k]
      rw [RowClause.whereClause, WhereClause.shift_parenthesized]
      refine Writing.Yields.joined ?_ (" " ++ connective.symbol ++ " ") rfl rfl rfl
      rw [hshift]
      exact Writing.Yields.map hparts

theorem follows_writeAll : (cs : List Clause) → (k : Nat) →
    (writeAll storage cs).Follows (k + 1)
      ((lowerAll storage cs).map fun f => listed k (RowClause.clauseParts f))
  | [], k => by
    rw [writeAll, lowerAll]
    exact Writing.yields_pure [] (k + 1)
  | c :: cs, k => by
    rw [writeAll, lowerAll]
    have hfirst := follows_write c k
    cases hc : lower storage c with
    | error fault =>
      rw [hc] at hfirst
      exact Writing.Fails.bind hfirst _
    | ok r =>
      rw [hc] at hfirst
      have hothers := follows_writeAll cs (k + WhereClause.count (lowered k r).2)
      rw [Nat.add_right_comm] at hothers
      have hboth := Writing.Yields.bind_follows (f := fun first => do
        let others ← writeAll storage cs
        return first.toList ++ others) hfirst (hothers.map ((lowered k r).1.toList ++ ·))
      cases hcs : lowerAll storage cs with
      | error fault =>
        rw [hcs] at hboth
        exact hboth
      | ok f =>
        rw [hcs] at hboth
        change Writing.Follows _ (k + 1) (.ok (listed k (RowClause.clauseParts (r.toList ++ f))))
        rw [listed_cons]
        exact hboth

theorem follows_writeGroup : (qs : List (List Clause)) → (k : Nat) →
    (writeGroup storage qs).Follows (k + 1)
      ((lowerGroup storage qs).map fun fs => listed k (RowClause.groupParts fs))
  | [], k => by
    rw [writeGroup, lowerGroup]
    exact Writing.yields_pure [] (k + 1)
  | q :: qs, k => by
    rw [writeGroup, lowerGroup]
    have hfirst := follows_writeAll q k
    cases hq : lowerAll storage q with
    | error fault =>
      rw [hq] at hfirst
      exact Writing.Fails.bind hfirst _
    | ok f =>
      rw [hq] at hfirst
      -- the clauses of the first query count as one condition, which is spelled out
      let w := (WhereClause.join " AND " (RowClause.clauseParts f)).spelled
      have hjoined : (writeAll storage q).Yields (k + 1)
          ((WhereClause.placed k (RowClause.clauseParts f)).map WhereClause.pattern) [w.shift k] :=
        Writing.Yields.joined hfirst " AND " rfl rfl rfl
      have hspelled : (w.shift k).pattern = WhereClause.condition
          ((WhereClause.join " AND " (RowClause.clauseParts f)).shift k) := by
        rw [WhereClause.shift_spelled]
        rfl
      rw [WhereClause.shift_join] at hspelled
      have hothers := follows_writeGroup qs (k + WhereClause.count [w.shift k])
      rw [Nat.add_right_comm] at hothers
      cases hqs : lowerGroup storage qs with
      | error fault =>
        rw [hqs] at hothers
        exact hjoined.bind_fails (Writing.Fails.bind hothers _)
      | ok fs =>
        rw [hqs] at hothers
        change Writing.Yields _ (k + 1) ((w.shift k).pattern :: _) (w.shift k :: _)
        rw [hspelled]
        exact hjoined.bind (Writing.Yields.map hothers)

end

end Clause

/-- **A query is the same, written in one pass**: each parameter is numbered as it comes, and a
fault ends the writing where it ends the understanding. -/
theorem Query.compile_eq_write (schema : ClassSchema) (q : Query) (start : Nat) :
    q.compile schema start = q.write schema start := by
  have hstart := ParamList.next_startingAt start
  have hpass := Clause.follows_writeAll schema.storage q (start - 1)
  unfold compile filter write
  cases hlower : Clause.lowerAll schema.storage q with
  | error fault =>
    rw [hlower] at hpass
    rw [hpass ⟨[], none⟩ _ hstart]
    rfl
  | ok f =>
    rw [hlower] at hpass
    have hshift := WhereClause.shift_join " AND " (RowClause.clauseParts f) (start - 1)
    rw [hpass ⟨[], none⟩ _ hstart, Except.map, Filter.whereClause, hshift]
    rfl

end DocStore
