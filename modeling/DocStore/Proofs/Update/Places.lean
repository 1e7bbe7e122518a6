import DocStore.Proofs.Query.Places
import DocStore.Proofs.Update.Contributions
import DocStore.Proofs.Update.Writing

/-!
# Where changes of members stand

A dotted key changes a member inside a column.  What it asks for gets into the patch of its column
and stays there while the other keys are read (`Update.exists_part_of_isDotted`).  In the assignment
that the patch becomes, it is written with its own parameters, and the column is the one that is
assigned (`Update.exists_place_of_isDotted`), whatever else the update changes.
-/

namespace DocStore

open Sql

open Param (StandAt)

/-! ### Changes of a patch -/

namespace Patch.Part

variable {p : Patch} {part : Patch.Part} {path : List String}

/-- The path of the member that is changed; none for the whole object. -/
def path? : Patch.Part → Option (List String)
  | .delete path | .increment path _ | .set path _ => some path
  | .whole _ => none

/-- The patch has the change. -/
def IsIn (p : Patch) : Patch.Part → Prop
  | .delete path => path ∈ p.deletes
  | .increment path amount => (path, amount) ∈ p.increments
  | .set path value => (path, value) ∈ p.sets
  | .whole value => p.whole = some value

/-- What a change writes into the assignment of its column; its first parameter is number `n`. -/
def text (c : Template) (n : Nat) : Patch.Part → Template
  | .delete _ => .slot n
  | .increment _ _ =>
    sql [.slot n, ", COALESCE(JSON_EXTRACT(", c, ", ", .slot n, "), 0) + ", .slot (n + 1)]
  | .set _ _ => sql [.slot n, ", CAST(", .slot (n + 1), " AS JSON)"]
  | .whole _ => sql ["CAST(", .slot n, " AS JSON)"]

/-- The parameters of a change; that of a member begins with its path. -/
def params : Patch.Part → List Param
  | .delete path => [Step.pathParam path]
  | .increment path amount => [Step.pathParam path, .value amount]
  | .set path value => [Step.pathParam path, .json value]
  | .whole value => [.json value]

theorem isIn_addTo (part : Patch.Part) (p : Patch) : part.IsIn (part.addTo p) := by
  cases part <;> simp [IsIn, addTo]

/-- A change of a member stays when another change is added. -/
theorem IsIn.addTo (h : part.IsIn p) (hpath : part.path? = some path) (change : Patch.Part) :
    part.IsIn (change.addTo p) := by
  cases part with
  | delete | increment | set =>
    cases change <;> simp_all [IsIn, Part.addTo]
  | whole value => cases hpath

theorem path?_of_nestedPart {key : String} {operand : Json}
    (h : Update.nestedPart key path operand = .ok part) : part.path? = some path := by
  unfold Update.nestedPart at h
  split at h
  · cases h
    rfl
  · obtain ⟨amount, -, rfl⟩ := Result.map_eq_ok.1 h
    rfl
  · cases h
  · cases h
    rfl

theorem params_eq_cons (h : part.path? = some path) :
    ∃ others, part.params = Step.pathParam path :: others := by
  cases part <;> cases h <;> exact ⟨_, rfl⟩

end Patch.Part

/-! ### Steps -/

namespace Step

/-- The step writes the change, with the parameters that the change has among its own. -/
def Writes (s : Step) (part : Patch.Part) : Prop :=
  ∃ i, StandAt (i + 1) part.params s.params ∧ ∀ c n, part.text c (n + i) <:+: s.text c n

variable {path : List String} {paths : List (List String)} {entries : List (List String × Json)}
  {value : Json} {t : Template}

theorem infix_setText {pairs : List Template} (c : Template) (h : t ∈ pairs) :
    t <:+: setText c pairs := by
  have hpairs : t <:+: Template.join ", " pairs := Template.infix_join h
  refine hpairs.trans ?_
  exact ⟨[.text "JSON_SET("] ++ (orObject c ++ [.text ", "]), [.text ")"], by simp [setText, sql]⟩

theorem writes_removeMembers (h : path ∈ paths) : (removeMembers paths).Writes (.delete path) := by
  obtain ⟨front, back, rfl⟩ := List.append_of_mem h
  refine ⟨front.length, ⟨front.map pathParam, back.map pathParam, ?_, ?_⟩, fun c n => ?_⟩
  · simp [params, Patch.Part.params]
  · simp
  · have hslot : Template.slot (n + front.length) ∈
        slotsFrom n (front ++ path :: back).length := by
      refine List.mem_map_of_mem (List.mem_range'_1.2 ?_)
      simp
    have hslots : Template.slot (n + front.length) <:+:
        Template.join ", " (slotsFrom n (front ++ path :: back).length) :=
      Template.infix_join hslot
    refine hslots.trans ?_
    exact ⟨[.text "JSON_REMOVE("] ++ (orObject c ++ [.text ", "]), [.text ")"], by
      simp [text, sql]⟩

/-- Pairs of two parameters each, behind those for the objects above them. -/
theorem writes_pair {s : Step} {part : Patch.Part} {e : List String × Json}
    {above : List (List String)} {given : List String × Json → List Param}
    (he : e ∈ entries) (hwidth : ∀ e, (given e).length = 2) (hgiven : part.params = given e)
    (hparams : s.params = above.map pathParam ++ entries.flatMap given)
    (htext : ∀ c n, s.text c n = setText c (parentPairs c n above.length ++
      (pairNumbers (n + above.length) entries.length).map (part.text c))) : s.Writes part := by
  obtain ⟨front, back, rfl⟩ := List.append_of_mem he
  have hfront : (front.flatMap given).length = 2 * front.length := by
    simp [List.length_flatMap, hwidth, Nat.mul_comm]
  refine ⟨above.length + 2 * front.length,
    ⟨above.map pathParam ++ front.flatMap given, back.flatMap given, ?_, ?_⟩, fun c n => ?_⟩
  · simp [hparams, hgiven]
  · simp [hfront]
  · rw [htext]
    refine infix_setText c (List.mem_append_right _ (List.mem_map.2 ⟨_, ?_, rfl⟩))
    refine List.mem_map.2 ⟨front.length, List.mem_range.2 (by simp), by omega⟩

theorem writes_addMembers (h : (path, value) ∈ entries) :
    (addMembers entries).Writes (.increment path value) :=
  writes_pair h (fun _ => rfl) rfl rfl fun _ _ => rfl

theorem writes_setMembers (h : (path, value) ∈ entries) :
    (setMembers entries).Writes (.set path value) :=
  writes_pair h (fun _ => rfl) rfl rfl fun _ _ => rfl

theorem writes_put (value : Json) : (put (.json value)).Writes (.whole value) :=
  ⟨0, ⟨[], [], rfl, rfl⟩, fun _ _ => List.infix_rfl⟩

end Step

namespace SetClause

/-- **Every step of a change is assigned to the column of the change**, with its own parameters. -/
theorem exists_assignment {made : List Change} {change : Change} {s : Step} (h : change ∈ made)
    (hs : s ∈ change.steps) (front : List Param) :
    ∃ j n, sql [.slot j, " = ", s.text (.slot j) n] ∈
        ((ofChanges made).shift front.length).assignments ∧
      StandAt j [.ident change.column] (front ++ (ofChanges made).params) ∧
      StandAt n s.params (front ++ (ofChanges made).params) := by
  induction made generalizing front with
  | nil => cases h
  | cons first rest ih =>
    have hassignments := assignments_shift_ofChanges front.length first rest
    have hparams : (ofChanges (first :: rest)).params =
        .ident first.column :: first.steps.flatMap Step.params ++ (ofChanges rest).params := rfl
    rw [hassignments, hparams]
    rcases List.mem_cons.1 h with rfl | h
    · obtain ⟨n, hn, hstand⟩ := Param.exists_standAt Step.params
        (fun n s => sql [.slot (front.length + 1), " = ", s.text (.slot (front.length + 1)) n])
        (Step.assignments (.slot (front.length + 1))) (fun _ _ _ => rfl) hs
        (front ++ [.ident change.column]) (ofChanges rest).params
      rw [List.length_append, List.length_singleton] at hn
      rw [List.append_assoc] at hstand
      exact ⟨front.length + 1, n, List.mem_append_left _ hn, ⟨front, _, rfl, rfl⟩, hstand⟩
    · -- the other changes stand behind the parameters of the first one too
      obtain ⟨j, n, hmem, hcolumn, hstep⟩ :=
        ih h (front ++ .ident first.column :: first.steps.flatMap Step.params)
      rw [List.append_assoc] at hcolumn hstep
      refine ⟨j, n, List.mem_append_right _ ?_, hcolumn, hstep⟩
      have hlength : (front ++ .ident first.column :: first.steps.flatMap Step.params).length =
          front.length + 1 + (first.steps.flatMap Step.params).length := by
        simp
        omega
      rwa [hlength] at hmem

end SetClause

namespace Update

variable {schema storage : ClassSchema} {u : Update} {o : Object} {part : Patch.Part}
  {e : String × Json} {path : List String} {column : String}

/-- Every change of a patch is written by one of its steps. -/
theorem exists_step_of_isIn {p : Patch} (h : part.IsIn p) : ∃ s ∈ patchSteps p, s.Writes part := by
  cases part with
  | delete path =>
    have hne : p.deletes.isEmpty = false := List.isEmpty_eq_false_iff.2 (List.ne_nil_of_mem h)
    exact ⟨_, by simp [patchSteps, hne], Step.writes_removeMembers h⟩
  | increment path amount =>
    have hne : p.increments.isEmpty = false := List.isEmpty_eq_false_iff.2 (List.ne_nil_of_mem h)
    exact ⟨_, by simp [patchSteps, hne], Step.writes_addMembers h⟩
  | set path value =>
    have hne : p.sets.isEmpty = false := List.isEmpty_eq_false_iff.2 (List.ne_nil_of_mem h)
    exact ⟨_, by simp [patchSteps, hne], Step.writes_setMembers h⟩
  | whole value =>
    have hwhole : p.whole = some value := h
    exact ⟨_, by simp [patchSteps, hwhole], Step.writes_put value⟩

/-- Every operator but a relation becomes a change of its column. -/
theorem mem_changesIn {op : Operator} {made : List Change} (h : (column, op) ∈ u)
    (hop : op ≠ .relation) (hmade : changesIn storage u = .ok made) :
    ∃ steps, operatorSteps storage column op = .ok steps ∧ ⟨column, steps⟩ ∈ made := by
  induction u generalizing made with
  | nil => cases h
  | cons x rest ih =>
    obtain ⟨name, other⟩ := x
    rcases changesIn_cons hmade with ⟨rfl, hmade⟩ | ⟨-, steps, others, hsteps, hothers, rfl⟩
    · rcases List.mem_cons.1 h with heq | h
      · cases heq
        exact absurd rfl hop
      · exact ih h hmade
    · rcases List.mem_cons.1 h with heq | h
      · cases heq
        exact ⟨steps, hsteps, List.mem_cons_self⟩
      · obtain ⟨steps', hsteps', hmem⟩ := ih h hothers
        exact ⟨steps', hsteps', List.mem_cons_of_mem _ hmem⟩

/-- The patch of a column has a change. -/
def HasPart (u : Update) (column : String) (part : Patch.Part) : Prop :=
  ∃ p, (column, .patch p) ∈ u ∧ part.IsIn p

/-- A change of a member stays when more is added to an update. -/
theorem HasPart.addTo (h : HasPart u column part) (hpath : part.path? = some path)
    (c : Contribution) (other : String) : HasPart (c.addTo other u) column part := by
  obtain ⟨p, hp, hpart⟩ := h
  cases c with
  | part change =>
    rcases (joined_alterPatch (fun p => change.addTo p) other u).mem_or hp with hp | ⟨q, heq, hq⟩
    · exact ⟨p, hp, hpart⟩
    · cases heq
      exact ⟨_, hq, hpart.addTo hpath change⟩
  | providers entries =>
    rcases (joined_addProviders entries u).mem_or hp with hp | ⟨old, heq, -⟩
    · exact ⟨p, hp, hpart⟩
    · cases heq
  | operator op => exact ⟨p, List.mem_append_left _ hp, hpart⟩

theorem hasPart_addTo (change : Patch.Part) (column : String) (u : Update) :
    HasPart ((Contribution.part change).addTo column u) column change := by
  obtain ⟨p, hp⟩ := (joined_alterPatch (fun p => change.addTo p) column u).exists_mem
  exact ⟨_, hp, change.isIn_addTo p⟩

/-- A dotted key contributes the change that it asks for. -/
theorem exists_nestedPart_of_contribution {c : Contribution} (hdotted : IsDotted e.1)
    (h : contribution storage e = .ok c) :
    ∃ part, nestedPart e.1 (Key.split e.1).2 e.2 = .ok part ∧ c = .part part := by
  obtain ⟨hprovider, hpath⟩ := hdotted
  unfold contribution at h
  rw [hprovider] at h
  split at h
  · next heq => cases heq
  · next hnil => exact absurd hnil hpath
  · split at h
    · obtain ⟨part, hpart, rfl⟩ := Result.map_eq_ok.1 h
      exact ⟨part, hpart, rfl⟩
    · cases h

/-- **What a dotted key asks for is in the patch of its column**, when all keys have been read. -/
theorem exists_part_of_isDotted (h : ofObject schema o = .ok u) (he : e ∈ o)
    (hdotted : IsDotted e.1) :
    ∃ part, nestedPart e.1 (Key.split e.1).2 e.2 = .ok part ∧ HasPart u (columnOf e.1) part := by
  -- what has been read of an update holds the changes of the dotted keys so far
  have hall : ∀ e ∈ inOrder o, IsDotted e.1 →
      ∃ part, nestedPart e.1 (Key.split e.1).2 e.2 = .ok part ∧
        HasPart u (columnOf e.1) part := by
    refine ofObject_keeps (P := fun before u => ∀ e ∈ before, IsDotted e.1 →
      ∃ part, nestedPart e.1 (Key.split e.1).2 e.2 = .ok part ∧
        HasPart u (columnOf e.1) part) (by simp) ?_ h
    intro before last c v _ hc hv e he hdotted
    rcases List.mem_append.1 he with he | he
    · obtain ⟨part, hpart, hhas⟩ := hv e he hdotted
      exact ⟨part, hpart, hhas.addTo (Patch.Part.path?_of_nestedPart hpart) c _⟩
    · obtain rfl := List.mem_singleton.1 he
      obtain ⟨part, hpart, rfl⟩ := exists_nestedPart_of_contribution hdotted hc
      exact ⟨part, hpart, hasPart_addTo part _ v⟩
  exact hall e (mem_inOrder.2 he) hdotted

/-- **What a dotted key asks for is written into an assignment of its column**, with its own
parameters, behind those in front of the update. -/
theorem exists_place_of_isDotted {front : List Param} {s : SetClause}
    (h : compile schema o (front.length + 1) = .ok s) (he : e ∈ o) (hdotted : IsDotted e.1) :
    ∃ part j i value, nestedPart e.1 (Key.split e.1).2 e.2 = .ok part ∧
      sql [.slot j, " = ", value] ∈ s.assignments ∧ part.text (.slot j) i <:+: value ∧
      StandAt j [.ident (columnOf e.1)] (front ++ s.params) ∧
      StandAt i part.params (front ++ s.params) := by
  obtain ⟨u, hu, h⟩ := Result.bind_eq_ok.1 h
  obtain ⟨made, hmade, h⟩ := Result.bind_eq_ok.1 h
  cases h
  obtain ⟨part, hpart, p, hp, hin⟩ := exists_part_of_isDotted hu he hdotted
  obtain ⟨steps, hsteps, hchange⟩ := mem_changesIn hp (by simp) hmade
  cases hsteps
  obtain ⟨step, hstep, k, hparams, htext⟩ := exists_step_of_isIn hin
  obtain ⟨j, n, hassignment, hcolumn, hstand⟩ :=
    SetClause.exists_assignment hchange hstep front
  exact ⟨part, j, n + k, _, hpart, hassignment, htext _ n, hcolumn, hstand.inner hparams⟩

end Update

end DocStore
