import DocStore.Proofs.Update.Clear
import DocStore.Proofs.Update.Scope
import DocStore.Proofs.Update.Steps

/-!
# What assignments do to a column

Assignments are made one after the other, and each reads the column as the one before left it
(`SetClause.columnAfter`).  They are read from their texts; a placeholder stands for the parameter
of its number.

A change has the same effect wherever it stands among others (`SetClause.columnAfter_ofChanges`),
which leave the column alone.
-/

namespace DocStore

open Sql

open Term (Means)

namespace Sql.Param

/-- The value of a parameter that is no name and no raw fragment. -/
def given : Param → Value
  | .value (.str s) => .text s
  | .value (.num n) => .json (.num n)
  | .value (.bool b) => .json (.bool b)
  | .value .null => .null
  | .value v | .json v => .source v
  | .ident _ | .raw _ => .null

/-- The value of a parameter in a row in which a column has a value; other columns are not known. -/
def valueIn? (column : String) (stored : Value) : Param → Option Value
  | .ident name => if name = column then some stored else none
  | .raw _ => none
  | p => some p.given

/-- The parameter that a placeholder stands for, where the first is number `n`. -/
def named? (source : String) : Nat → List Param → Option Param
  | _, [] => none
  | n, p :: ps => if source = "$" ++ toString n then some p else named? source (n + 1) ps

theorem placeholder_inj {m n : Nat} : "$" ++ toString m = "$" ++ toString n ↔ m = n := by
  constructor
  · intro h
    have hdigits : Nat.toDigits 10 m = Nat.toDigits 10 n := by
      simpa using congrArg String.toList h
    have hread := congrArg (Nat.ofDigitChars 10 · 0) hdigits
    simpa [Nat.ofDigitChars_toDigits] using hread
  · rintro rfl
    rfl

theorem named?_placeholder (params : List Param) (n i : Nat) :
    named? ("$" ++ toString (n + i)) n params = params[i]? := by
  induction params generalizing n i with
  | nil => rfl
  | cons p params ih =>
    rw [named?]
    cases i with
    | zero => simp
    | succ i =>
      have hne : n + (i + 1) ≠ n := by omega
      have hnext : n + (i + 1) = n + 1 + i := by omega
      rw [if_neg (placeholder_inj.not.2 hne), hnext, ih]
      rfl

end Sql.Param

namespace SetClause

/-- The values of words in an assignment. -/
def wordValue (column : String) (params : List Param) (stored : Value) (source : String) :
    Option Value :=
  (Param.named? source 1 params).bind (Param.valueIn? column stored)

/-- The value of a column after one assignment, where `words` gives the values of words. -/
def assignWith (plus : Number → Number → Number) (words : String → Option Value) (column : String)
    (params : List Param) (stored : Value) (assignment : Template) : Option Value :=
  match solidTokens? assignment.print with
  | some (target :: ⟨.mark, "="⟩ :: ts) =>
    match Param.named? target.source 1 params with
    | some (.ident name) =>
      if name = column then (Term.read? ts).bind (Term.eval plus words) else some stored
    | _ => none
  | _ => none

/-- The value of a column after one assignment. -/
def assign (plus : Number → Number → Number) (column : String) (params : List Param)
    (stored : Value) (assignment : Template) : Option Value :=
  assignWith plus (wordValue column params stored) column params stored assignment

/-- The value of a column after all assignments, whose parameters are behind others. -/
def columnAfter (plus : Number → Number → Number) (column : String) (front : List Param)
    (s : SetClause) (stored : Value) : Option Value :=
  s.assignments.foldlM (assign plus column (front ++ s.params)) stored

end SetClause

variable {plus : Number → Number → Number} {column : String} {stored after : Value} {k n : Nat}

/-- The placeholders of parameters that are given have their values, wherever they stand. -/
theorem supplied_placed (front params back : List Param)
    (hgiven : ∀ p ∈ params, p.valueIn? column stored = some p.given)
    (hn : n + k = front.length + 1) :
    Supplied (SetClause.wordValue column (front ++ (params ++ back)) stored)
      (fun i => Template.placeholder (i + k)) n (params.map Param.given) := by
  induction params generalizing front n with
  | nil => trivial
  | cons p params ih =>
    have hrest := ih (front ++ [p]) (n := n + 1) (fun q hq => hgiven q (List.mem_cons_of_mem _ hq))
      (by simp; omega)
    refine ⟨rfl, ?_, by simpa using hrest⟩
    have hsource : (Template.placeholder (n + k)).source = "$" ++ toString (1 + front.length) := by
      rw [hn, Nat.add_comm]
      rfl
    rw [hsource, SetClause.wordValue, Param.named?_placeholder]
    simp [hgiven p List.mem_cons_self]

/-- No parameter of a step is a name or a raw fragment. -/
theorem Step.given_params (s : Step) :
    ∀ p ∈ s.params, p.valueIn? column stored = some p.given := by
  have hvalue : ∀ v, (Param.value v).valueIn? column stored = some (Param.value v).given :=
    fun _ => rfl
  have hjson : ∀ v, (Param.json v).valueIn? column stored = some (Param.json v).given :=
    fun _ => rfl
  have hpath : ∀ path, (pathParam path).valueIn? column stored = some (pathParam path).given :=
    fun _ => rfl
  cases s with
  | put e => cases e <;> simp [params, Expression.params, hvalue, hjson]
  | increment amount => simp [params, hvalue]
  | append items => simp [params, hjson]
  | appendUnique item => simp [params, hjson]
  | remove items => simp [params, hjson]
  | removeMembers paths => simp [params, hpath]
  | addMembers amounts | setMembers values =>
    intro p hp
    simp only [params, List.mem_append, List.mem_map, List.mem_flatMap, List.mem_cons,
      List.not_mem_nil, or_false] at hp
    rcases hp with ⟨path, -, rfl⟩ | ⟨e, -, rfl | rfl⟩
    · exact hpath path
    · exact hpath e.1
    · rfl
  | setProviders entries =>
    intro p hp
    obtain ⟨⟨name, value⟩, -, hp⟩ := List.mem_flatMap.1 hp
    cases value with
    | none =>
      obtain rfl := List.mem_singleton.1 hp
      exact hpath [name]
    | some v =>
      simp only [providerParams, Option.map_some, Option.toList_some, List.mem_cons,
        List.not_mem_nil, or_false] at hp
      rcases hp with rfl | rfl
      · exact hpath [name]
      · exact hjson v

/-! ### Steps -/

/-- Each of several takes a value to the next one. -/
def Along {α : Type} (R : α → Value → Value → Prop) : List α → Value → Value → Prop
  | [], stored, after => stored = after
  | a :: as, stored, after => ∃ next, R a stored next ∧ Along R as next after

theorem along_append {α : Type} {R : α → Value → Value → Prop} {as bs : List α} {v w x : Value}
    (has : Along R as v w) (hbs : Along R bs w x) : Along R (as ++ bs) v x := by
  induction as generalizing v with
  | nil =>
    cases has
    exact hbs
  | cons a as ih =>
    obtain ⟨next, ha, has⟩ := has
    exact ⟨next, ha, ih has⟩

/-- A step takes the value of its column to another, wherever it stands. -/
def Step.Gives (plus : Number → Number → Number) (s : Step) (stored after : Value) : Prop :=
  ∀ env g n, Supplied env g 1 [stored] → Supplied env g n (s.params.map Param.given) →
    Means plus env ((s.text (.slot 1) n).solidTokens g) after

/-- The steps of a change take the value of its column to another. -/
def Change.Gives (plus : Number → Number → Number) (c : Change) (stored after : Value) : Prop :=
  Along (Step.Gives plus) c.steps stored after

namespace SetClause

variable {front before back rest : List Param} {name : String} {s : Step}

/-- An assignment reads the column that it is made to, which is the parameter behind `front`. -/
theorem assignWith_eq {words : String → Option Value} (hn : 1 ≤ n) :
    assignWith plus words column (front ++ .ident name :: rest) stored
        ((sql [.slot 1, " = ", s.text (.slot 1) n]).shift front.length) =
      if name = column then
        (Term.read? ((s.text (.slot 1) n).solidTokens
          fun i => Template.placeholder (i + front.length))).bind (Term.eval plus words)
      else some stored := by
  have hslot : Template.Clear true (.slot 1) := ⟨rfl, trivial⟩
  have hclear : Template.Clear true (sql [.slot 1, " = ", s.text (.slot 1) n]) :=
    .part hslot rfl (.text rfl (.part (s.clear_text hslot) rfl .nil))
  have hwithin : Template.Within 1 (n + s.params.length + 1) (.slot 1) := by
    simp
    omega
  have hall : Template.Within 1 (n + s.params.length + 1)
      (sql [.slot 1, " = ", s.text (.slot 1) n]) := by
    simp [hwithin, s.within_text hwithin hn (by omega)]
  have hequals : solid " = " = [⟨.mark, "="⟩] := by decide
  have htokens := Template.solidTokens?_print (hclear.shift front.length)
  rw [Template.solidTokens_shift hall.narrow] at htokens
  have hname : Param.named? (Template.placeholder (1 + front.length)).source 1
      (front ++ .ident name :: rest) = some (.ident name) := by
    rw [Template.placeholder, Param.named?_placeholder]
    simp
  rw [assignWith, htokens]
  simp [hequals, Template.slot, Template.solidTokens, hname]

theorem assign_eq (hn : 1 ≤ n) :
    assign plus column (front ++ .ident name :: rest) stored
        ((sql [.slot 1, " = ", s.text (.slot 1) n]).shift front.length) =
      if name = column then
        (Term.read? ((s.text (.slot 1) n).solidTokens
          fun i => Template.placeholder (i + front.length))).bind
          (Term.eval plus (wordValue column (front ++ .ident name :: rest) stored))
      else some stored := by
  rw [assign, assignWith_eq hn]

/-- The placeholders of a step, which is behind `before` in its change, and that of its column. -/
theorem supplied_step (front before back : List Param) (s : Step) :
    let words := wordValue column
      (front ++ .ident column :: (before ++ (s.params ++ back))) stored
    Supplied words (fun i => Template.placeholder (i + front.length)) 1 [stored] ∧
      Supplied words (fun i => Template.placeholder (i + front.length)) (before.length + 2)
        (s.params.map Param.given) := by
  constructor
  · refine ⟨rfl, ?_, trivial⟩
    show wordValue _ _ _ ("$" ++ toString (1 + front.length)) = _
    rw [wordValue, Param.named?_placeholder]
    simp [Param.valueIn?]
  · have hparams : Supplied (wordValue column
        ((front ++ .ident column :: before) ++ (s.params ++ back)) stored)
        (fun i => Template.placeholder (i + front.length)) (before.length + 2)
        (s.params.map Param.given) :=
      supplied_placed _ _ _ s.given_params (by simp; omega)
    rwa [List.append_assoc, List.cons_append] at hparams

theorem assign_of_gives (h : s.Gives plus stored after) :
    assign plus column (front ++ .ident column :: (before ++ (s.params ++ back))) stored
        ((sql [.slot 1, " = ", s.text (.slot 1) (before.length + 2)]).shift front.length) =
      some after := by
  obtain ⟨hcolumn, hparams⟩ := supplied_step front before back s
  obtain ⟨e, he, hvalue⟩ := h _ _ _ hcolumn hparams
  rw [assign_eq (by omega), if_pos rfl, he.isArguments.read?]
  exact hvalue

/-- The assignments of a change take its column to where its steps do. -/
theorem foldlM_assignments (before : List Param) {steps : List Step}
    (h : Along (Step.Gives plus) steps stored after) :
    ((Step.assignments (.slot 1) (before.length + 2) steps).map
        (Template.shift front.length)).foldlM (assign plus column
          (front ++ .ident column :: (before ++ (steps.flatMap Step.params ++ back)))) stored =
      some after := by
  induction steps generalizing stored before with
  | nil =>
    cases h
    rfl
  | cons s steps ih =>
    obtain ⟨next, hs, hsteps⟩ := h
    have hnext : before.length + 2 + s.params.length = (before ++ s.params).length + 2 := by
      simp
      omega
    rw [Step.assignments, List.map_cons, List.foldlM_cons, List.flatMap_cons, List.append_assoc,
      assign_of_gives hs, hnext, ← List.append_assoc before]
    exact ih _ hsteps

/-- A change leaves all columns but its own alone. -/
theorem foldlM_assignments_of_ne {steps : List Step} (hname : name ≠ column) (hn : 1 ≤ n) :
    ((Step.assignments (.slot 1) n steps).map (Template.shift front.length)).foldlM
        (assign plus column (front ++ .ident name :: rest)) stored = some stored := by
  induction steps generalizing n with
  | nil => rfl
  | cons s steps ih =>
    rw [Step.assignments, List.map_cons, List.foldlM_cons, assign_eq hn, if_neg hname]
    exact ih (by omega)

/-- **The assignments of changes take a column to where its own changes do.** -/
theorem columnAfter_ofChanges (front : List Param) {changes : List Change}
    (h : Along (Change.Gives plus) (changes.filter fun c => c.column == column) stored after) :
    ((ofChanges changes).shift front.length).columnAfter plus column front stored =
      some after := by
  induction changes generalizing front stored with
  | nil =>
    cases h
    rfl
  | cons change changes ih =>
    obtain ⟨name, steps⟩ := change
    -- the first change, with the parameters of the others behind its own
    obtain ⟨next, hfirst, hothers⟩ : ∃ next,
        ((ofChange ⟨name, steps⟩).assignments.map (Template.shift front.length)).foldlM
          (assign plus column (front ++ ((ofChange ⟨name, steps⟩).params ++
            (ofChanges changes).params))) stored = some next ∧
        Along (Change.Gives plus) (changes.filter fun c => c.column == column) next after := by
      by_cases hname : name = column
      · subst hname
        rw [List.filter_cons_of_pos (by simp)] at h
        obtain ⟨next, hchange, hothers⟩ := h
        exact ⟨next, foldlM_assignments [] hchange, hothers⟩
      · rw [List.filter_cons_of_neg (by simpa using hname)] at h
        exact ⟨stored, foldlM_assignments_of_ne hname (by omega), h⟩
    have hshift : ((ofChanges changes).shift (ofChange ⟨name, steps⟩).params.length).assignments.map
        (Template.shift front.length) =
        (ofChanges changes).assignments.map
          (Template.shift (front ++ (ofChange ⟨name, steps⟩).params).length) := by
      simp [SetClause.shift, Function.comp_def, Template.shift_shift, Nat.add_comm]
    have hassignments : (ofChanges (⟨name, steps⟩ :: changes)).assignments =
        (ofChange ⟨name, steps⟩).assignments ++
          ((ofChanges changes).shift (ofChange ⟨name, steps⟩).params.length).assignments := rfl
    have hparams : (ofChanges (⟨name, steps⟩ :: changes)).params =
        (ofChange ⟨name, steps⟩).params ++ (ofChanges changes).params := rfl
    rw [columnAfter, SetClause.shift, hassignments, hparams, List.map_append, List.foldlM_append,
      hfirst, hshift, ← List.append_assoc]
    exact ih _ hothers

end SetClause

end DocStore
