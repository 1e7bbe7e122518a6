import DocStore.Proofs.Sql.Numbering
import DocStore.Proofs.Update.Steps
import DocStore.Update.Lowering

/-!
# Writing an update in one pass

An update can be written while its operators are understood: every operator takes the number of its
column from one list of parameters, and then the numbers of what it assigns (`Update.write`).  The
same comes of writing every change on its own and moving it behind the ones before it
(`Update.compile_eq_write`).
-/

namespace DocStore

open Sql

/-! ### Moving assignments -/

section Shift

variable (k n : Nat) (c : Template)

theorem Expression.shift_text (e : Expression) : (e.text n).shift k = e.text (n + k) := by
  cases e <;> simp [text, Nat.add_right_comm]

namespace Step

theorem shift_orObject : (orObject c).shift k = orObject (c.shift k) := by simp [orObject]

theorem shift_orArray : (orArray c).shift k = orArray (c.shift k) := by simp [orArray]

theorem map_shift_parentPairs (count : Nat) :
    (parentPairs c n count).map (Template.shift k) = parentPairs (c.shift k) (n + k) count :=
  map_shift_range' (fun i => by simp) n count 1

theorem map_shift_pairs {f g : Nat → Template} (h : ∀ i, (f i).shift k = g (i + k))
    (count : Nat) :
    ((pairNumbers n count).map f).map (Template.shift k) = (pairNumbers (n + k) count).map g := by
  rw [pairNumbers_eq_range', pairNumbers_eq_range']
  exact map_shift_range' h n count 2

theorem shift_setText (pairs : List Template) :
    (setText c pairs).shift k = setText (c.shift k) (pairs.map (Template.shift k)) := by
  simp [setText, shift_orObject, Template.shift_join]

theorem shift_providersText (entries : List (String × Option Json)) :
    (providersText c n entries).shift k = providersText (c.shift k) (n + k) entries := by
  induction entries generalizing c n with
  | nil => rfl
  | cons e rest ih =>
    obtain ⟨name, value⟩ := e
    cases value <;> simp [providersText, ih, shift_orObject, Nat.add_right_comm]

theorem shift_text (s : Step) : (s.text c n).shift k = s.text (c.shift k) (n + k) := by
  cases s with
  | put e => exact e.shift_text k n
  | append items =>
    have hitems : Template.shift k ((slotsFrom n items.length).map fun s =>
        sql [", '$', CAST(", s, " AS JSON)"]).flatten =
        ((slotsFrom (n + k) items.length).map fun s =>
          sql [", '$', CAST(", s, " AS JSON)"]).flatten := by
      rw [← map_shift_slotsFrom, ← sql, Template.shift_sql, List.map_map, List.map_map, ← sql]
      simp [Function.comp_def]
    rw [text, text]
    split
    · exact shift_orArray k c
    · simp [shift_orArray, hitems]
  | addMembers amounts =>
    simp only [text, shift_setText, List.map_append, map_shift_parentPairs]
    rw [map_shift_pairs (g := fun i => sql [.slot i, ", COALESCE(JSON_EXTRACT(", c.shift k, ", ",
      .slot i, "), 0) + ", .slot (i + 1)]), Nat.add_right_comm]
    intro i
    simp [Nat.add_right_comm]
  | setMembers values =>
    simp only [text, shift_setText, List.map_append, map_shift_parentPairs]
    rw [map_shift_pairs (g := fun i => sql [.slot i, ", CAST(", .slot (i + 1), " AS JSON)"]),
      Nat.add_right_comm]
    intro i
    simp [Nat.add_right_comm]
  | setProviders entries => exact shift_providersText k n c entries
  | _ =>
    simp [text, shift_orArray, shift_orObject, Template.shift_join, map_shift_slotsFrom,
      Nat.add_right_comm]

/-- **Assignments that are moved** are those to what their column has become, numbered from further
on. -/
theorem map_shift_assignments (steps : List Step) :
    (assignments c n steps).map (Template.shift k) = assignments (c.shift k) (n + k) steps := by
  induction steps generalizing n with
  | nil => rfl
  | cons s rest ih =>
    rw [assignments, List.map_cons, ih, assignments]
    simp [shift_text, Nat.add_right_comm]

end Step

/-- The assignments of changes behind `k` parameters: the column of the first is the next one, and
the others stand behind the parameters of its steps. -/
theorem SetClause.assignments_shift_ofChanges (change : Change) (rest : List Change) :
    let written := (change.steps.flatMap Step.params).length
    ((ofChanges (change :: rest)).shift k).assignments =
      Step.assignments (.slot (k + 1)) (k + 1 + 1) change.steps ++
        ((ofChanges rest).shift (k + 1 + written)).assignments := by
  intro written
  have hfirst := Step.map_shift_assignments k 2 (.slot 1) change.steps
  have hrest : ∀ (j : Nat) (t : Template), (t.shift (j + 1)).shift k = t.shift (k + 1 + j) := by
    intro j t
    rw [Template.shift_shift]
    congr 1
    omega
  rw [Template.shift_slot, Nat.add_comm 1, Nat.add_comm 2] at hfirst
  simp only [written, ofChanges, shift, List.map_append, List.map_map, Function.comp_def, ← hfirst,
    ofChange, List.length_cons, hrest]

end Shift

/-! ### One pass -/

open Listing (push)

/-- Write an expression. -/
def Expression.write : Expression → Listing Template
  | .null => return "NULL"
  | .value v => push (.value v)
  | .json v => do
    let document ← push (.json v)
    return sql ["CAST(", document, " AS JSON)"]
  | .point longitude latitude => do
    let longitude ← push (.value (.ofFloat longitude))
    let latitude ← push (.value (.ofFloat latitude))
    return sql ["POINT(", longitude, ", ", latitude, ")"]

namespace Step

variable (c : Template)

/-- Write the pair that creates a missing object. -/
def writeParent (path : List String) : Listing Template := do
  let path ← push (pathParam path)
  return sql [path, ", COALESCE(JSON_EXTRACT(", c, ", ", path, "), JSON_OBJECT())"]

/-- Write the pair that adds to a member. -/
def writeAmount (e : List String × Json) : Listing Template := do
  let path ← push (pathParam e.1)
  let amount ← push (.value e.2)
  return sql [path, ", COALESCE(JSON_EXTRACT(", c, ", ", path, "), 0) + ", amount]

/-- Write the pair that sets a member. -/
def writeMember (e : List String × Json) : Listing Template := do
  let path ← push (pathParam e.1)
  let value ← push (.json e.2)
  return sql [path, ", CAST(", value, " AS JSON)"]

/-- Write a provider that is set in what the ones before it made of the column. -/
def writeProvider (inner : Template) (e : String × Option Json) : Listing Template := do
  let path ← push (pathParam [e.1])
  match e.2 with
  | none => return sql ["JSON_SET(", orObject inner, ", ", path, ", NULL)"]
  | some v => do
    let value ← push (.json v)
    return sql ["JSON_SET(", orObject inner, ", ", path, ", CAST(", value, " AS JSON))"]

/-- Write an item that is appended. -/
def writeItem (v : Json) : Listing Template := do
  let item ← push (.json v)
  return sql [", '$', CAST(", item, " AS JSON)"]

/-- Write what a column is set to. -/
def write : Step → Listing Template
  | .put e => e.write
  | .increment amount => do
    let amount ← push (.value amount)
    return sql ["COALESCE(", c, ", 0) + ", amount]
  | .append items => do
    let added ← items.mapM writeItem
    return if items.isEmpty then orArray c
      else sql ["JSON_ARRAY_APPEND(", orArray c, added.flatten, ")"]
  | .appendUnique item => do
    let candidate ← push (.json (.arr [item]))
    let item ← push (.json item)
    return sql ["IF(JSON_CONTAINS(", orArray c, ", ", candidate, ") = 0, JSON_ARRAY_APPEND(",
      orArray c, ", '$', CAST(", item, " AS JSON)), ", c, ")"]
  | .remove items => do
    let removed ← push (.json (.arr items))
    return sql ["(SELECT COALESCE(JSON_ARRAYAGG(jt.elem), JSON_ARRAY()) FROM JSON_TABLE(",
      orArray c, ", '$[*]' COLUMNS (elem JSON PATH '$')) AS jt WHERE NOT (jt.elem MEMBER OF (CAST(",
      removed, " AS JSON))))"]
  | .removeMembers paths => do
    let paths ← paths.mapM fun path => push (pathParam path)
    return sql ["JSON_REMOVE(", orObject c, ", ", .join ", " paths, ")"]
  | .addMembers amounts => do
    let parents ← (allParents (amounts.map (·.1))).mapM (writeParent c)
    let pairs ← amounts.mapM (writeAmount c)
    return setText c (parents ++ pairs)
  | .setMembers values => do
    let parents ← (allParents (values.map (·.1))).mapM (writeParent c)
    let pairs ← values.mapM writeMember
    return setText c (parents ++ pairs)
  | .setProviders entries => entries.foldlM writeProvider c

/-- Write the assignments of steps in order. -/
def writeAll (steps : List Step) : Listing (List Template) :=
  steps.mapM fun s => do
    let value ← s.write c
    return sql [c, " = ", value]

end Step

namespace Update

/-- Understand and write operators in order; relations change nothing here. -/
def writeAll (storage : ClassSchema) : Update → Listing (List Template)
  | [] => return []
  | (_, .relation) :: rest => writeAll storage rest
  | (column, operator) :: rest => do
    let c ← push (.ident column)
    let steps ← (operatorSteps storage column operator : Except Fault (List Step))
    let first ← Step.writeAll c steps
    let others ← writeAll storage rest
    return first ++ others

/-- Understand and write an update, its placeholders numbered from `start`. -/
def write (schema : ClassSchema) (o : Object) (start : Nat) : Except Fault SetClause := do
  let u ← ofObject schema o
  let (assignments, written) ← (writeAll schema.storage u).run (.startingAt start)
  return ⟨assignments, written.items⟩

end Update

/-! ### What is written -/

open Listing (Yields yields_push yields_pure)

theorem Expression.yields_write (e : Expression) (n : Nat) :
    e.write.Yields n (e.text n) e.params := by
  cases e with
  | null => exact yields_pure _ n
  | value v => exact yields_push _ n
  | json v => exact Yields.map (yields_push _ n)
  | point longitude latitude =>
    exact Yields.bind (yields_push _ n) (Yields.map (yields_push _ (n + 1))) rfl

namespace Step

variable (c : Template)

theorem yields_writeItem (v : Json) (n : Nat) :
    (writeItem v).Yields n (sql [", '$', CAST(", .slot n, " AS JSON)"]) [.json v] :=
  Yields.map (yields_push _ n)

theorem yields_writeParent (path : List String) (n : Nat) :
    (writeParent c path).Yields n
      (sql [.slot n, ", COALESCE(JSON_EXTRACT(", c, ", ", .slot n, "), JSON_OBJECT())"])
      [pathParam path] :=
  Yields.map (yields_push _ n)

theorem yields_writeAmount (e : List String × Json) (n : Nat) :
    (writeAmount c e).Yields n
      (sql [.slot n, ", COALESCE(JSON_EXTRACT(", c, ", ", .slot n, "), 0) + ", .slot (n + 1)])
      [pathParam e.1, .value e.2] :=
  Yields.bind (yields_push _ n) (Yields.map (yields_push _ (n + 1))) rfl

theorem yields_writeMember (e : List String × Json) (n : Nat) :
    (writeMember e).Yields n (sql [.slot n, ", CAST(", .slot (n + 1), " AS JSON)"])
      [pathParam e.1, .json e.2] :=
  Yields.bind (yields_push _ n) (Yields.map (yields_push _ (n + 1))) rfl

theorem yields_foldlM_writeProvider (entries : List (String × Option Json)) (n : Nat) :
    (entries.foldlM writeProvider c).Yields n (providersText c n entries)
      (entries.flatMap providerParams) := by
  induction entries generalizing c n with
  | nil => exact yields_pure c n
  | cons e rest ih =>
    obtain ⟨name, value⟩ := e
    rw [List.foldlM_cons]
    cases value with
    | none =>
      have hfirst : (writeProvider c (name, none)).Yields n
          (sql ["JSON_SET(", orObject c, ", ", .slot n, ", NULL)"])
          (providerParams (name, none)) :=
        Yields.map (yields_push _ n)
      exact hfirst.bind (ih _ (n + 1)) rfl
    | some v =>
      have hfirst : (writeProvider c (name, some v)).Yields n
          (sql ["JSON_SET(", orObject c, ", ", .slot n, ", CAST(", .slot (n + 1), " AS JSON))"])
          (providerParams (name, some v)) :=
        Yields.bind (yields_push _ n) (Yields.map (yields_push _ (n + 1))) rfl
      exact hfirst.bind (ih _ (n + 2)) rfl

/-- Pairs for members, behind those that create the objects above them. -/
theorem yields_setText {α : Type} {f : α → Listing Template} {g : Nat → Template}
    {p : α → List Param} (h : ∀ a n, (f a).Yields n (g n) (p a)) (hwidth : ∀ a, (p a).length = 2)
    (above : List (List String)) (as : List α) (n : Nat) :
    Yields (do
        let parents ← above.mapM (writeParent c)
        let pairs ← as.mapM f
        return setText c (parents ++ pairs)) n
      (setText c (parentPairs c n above.length ++
        (pairNumbers (n + above.length) as.length).map g))
      (above.map pathParam ++ as.flatMap p) := by
  have hparents := Listing.yields_mapM (yields_writeParent c) above n
  have hpairs := Listing.yields_mapM_width h hwidth as (n + (above.map pathParam).length)
  rw [List.length_map] at hpairs
  rw [pairNumbers_eq_range']
  refine hparents.bind ?_ rfl
  rw [List.length_map]
  exact hpairs.map

/-- **What a column is set to is written with its numbers.** -/
theorem yields_write (s : Step) (n : Nat) : (s.write c).Yields n (s.text c n) s.params := by
  cases s with
  | put e => exact e.yields_write n
  | increment amount | remove items => exact Yields.map (yields_push _ n)
  | append items =>
    have hitems := Listing.yields_mapM yields_writeItem items n
    rw [text, slotsFrom, List.map_map]
    exact hitems.map
  | appendUnique item =>
    exact Yields.bind (yields_push _ n) (Yields.map (yields_push _ (n + 1))) rfl
  | removeMembers paths =>
    exact Yields.map (Listing.yields_mapM (fun path n => yields_push (pathParam path) n) paths n)
  | addMembers amounts =>
    exact yields_setText c (yields_writeAmount c) (fun _ => rfl) _ amounts n
  | setMembers values => exact yields_setText c yields_writeMember (fun _ => rfl) _ values n
  | setProviders entries => exact yields_foldlM_writeProvider c entries n

theorem yields_writeAll (steps : List Step) (n : Nat) :
    (writeAll c steps).Yields n (assignments c n steps) (steps.flatMap params) := by
  induction steps generalizing n with
  | nil => exact yields_pure [] n
  | cons s rest ih =>
    have hfirst : Yields (do
        let value ← s.write c
        return sql [c, " = ", value]) n (sql [c, " = ", s.text c n]) s.params :=
      (s.yields_write c n).map
    have hrest := (ih (n + s.params.length)).map (g := (sql [c, " = ", s.text c n] :: ·))
    rw [writeAll, List.mapM_cons]
    exact hfirst.bind hrest rfl

end Step

namespace Update

/-- **Operators are written as they are understood**, the first behind `k` parameters. -/
theorem follows_writeAll (storage : ClassSchema) (u : Update) (k : Nat) :
    (writeAll storage u).Follows (k + 1) ((changesIn storage u).map fun made =>
      (((SetClause.ofChanges made).shift k).assignments, (SetClause.ofChanges made).params)) := by
  induction u generalizing k with
  | nil => exact yields_pure [] (k + 1)
  | cons x rest ih =>
    obtain ⟨column, op⟩ := x
    by_cases hrelation : op = .relation
    · subst hrelation
      exact ih k
    · rw [writeAll, changesIn]
      · have hcolumn := yields_push (.ident column) (k + 1)
        cases hsteps : operatorSteps storage column op with
        | error fault =>
          exact hcolumn.bind_fails (Listing.Fails.bind (Listing.fails_throw fault _) _)
        | ok steps =>
          have hfirst := Step.yields_writeAll (.slot (k + 1)) steps (k + 1 + 1)
          have hothers := ih (k + 1 + (steps.flatMap Step.params).length)
          rw [Nat.add_right_comm (k + 1)] at hothers
          cases hrest : changesIn storage rest with
          | error fault =>
            rw [hrest] at hothers
            exact hcolumn.bind_fails ((yields_pure steps _).bind_fails
              (hfirst.bind_fails (Listing.Fails.bind hothers _)))
          | ok made =>
            rw [hrest] at hothers
            change Yields _ (k + 1) ((SetClause.ofChanges (⟨column, steps⟩ :: made)).shift
              k).assignments (SetClause.ofChanges (⟨column, steps⟩ :: made)).params
            rw [SetClause.assignments_shift_ofChanges]
            refine hcolumn.bind ((yields_pure steps _).bind ?_ rfl) rfl
            exact hfirst.bind (Yields.map hothers) rfl
      · exact hrelation
      · exact hrelation

/-- **An update is the same, written in one pass**: each parameter is numbered as it comes, and a
fault ends the writing where it ends the understanding. -/
theorem compile_eq_write (schema : ClassSchema) (o : Object) (start : Nat) :
    compile schema o start = write schema o start := by
  have hstart := ParamList.next_startingAt start
  unfold compile write changes
  cases ofObject schema o with
  | error fault => rfl
  | ok u =>
    have hpass := follows_writeAll schema.storage u (start - 1)
    dsimp only [bind, Except.bind]
    cases hmade : changesIn schema.storage u with
    | error fault =>
      rw [hmade] at hpass
      rw [hpass _ hstart]
    | ok made =>
      rw [hmade] at hpass
      rw [hpass _ hstart]
      rfl

end Update

end DocStore
