import DocStore.Proofs.Command.Names
import DocStore.Proofs.Command.Tokens
import DocStore.Proofs.Update.Distinct
import DocStore.Proofs.Update.Names
import DocStore.Proofs.Update.Order

/-!
# Assignments to different columns

An assignment is read from its text as a column and an expression (`Assignment.ofText?`).  The
expression names no column but this one (`Change.reads_texts`), so what the assignments before have
made of other columns does not matter to it, whatever the expressions mean
(`Assignment.run_eq_run_ofColumn`).

If the keys of an update are about different columns, their order does not matter
(`Update.assignments_of_perm`): the texts of the assignments are the same in another order, and
those of one column are in the same order.
-/

namespace DocStore

open Sql

/-- An assignment as it is read from its text. -/
structure Assignment where
  text : String
  column : String
  /-- The tokens of the expression. -/
  expression : List Token
  deriving DecidableEq

namespace Assignment

/-- The assignment that a text is. -/
def ofText? (text : String) : Option Assignment :=
  match solidTokens? text with
  | some (⟨.name column, _⟩ :: ⟨.mark, "="⟩ :: ts) => some ⟨text, column, ts⟩
  | _ => none

/-- The names in the text of the assignment. -/
def names (a : Assignment) : List String := Token.names ((solidTokens? a.text).getD [])

variable {V : Type} {eval : List Token → (String → V) → V} {row row' : String → V}
  {as : List Assignment} {column : String}

/-- A meaning of expressions on rows that looks only at the columns they name. -/
def ReadsNames (eval : List Token → (String → V) → V) : Prop :=
  ∀ ts row row', (∀ name ∈ Token.names ts, row name = row' name) → eval ts row = eval ts row'

/-- A row after assignments that are made one after the other. -/
def run (eval : List Token → (String → V) → V) (row : String → V) (as : List Assignment) :
    String → V :=
  as.foldl (fun row a => Function.update row a.column (eval a.expression row)) row

/-- The assignments that are made to a column. -/
def ofColumn (column : String) (as : List Assignment) : List Assignment :=
  as.filter fun a => a.column == column

/-- **Assignments that read no other column leave each other alone.** -/
theorem run_eq_run_ofColumn (hreads : ReadsNames eval)
    (hown : ∀ a ∈ as, ∀ name ∈ Token.names a.expression, name = a.column)
    (hrow : row column = row' column) :
    run eval row as column = run eval row' (ofColumn column as) column := by
  induction as generalizing row row' with
  | nil => exact hrow
  | cons a as ih =>
    obtain ⟨ha, has⟩ := List.forall_mem_cons.1 hown
    by_cases hcolumn : a.column = column
    · subst hcolumn
      have hvalue : eval a.expression row = eval a.expression row' :=
        hreads _ _ _ fun name hname => by rw [ha name hname, hrow]
      rw [ofColumn, List.filter_cons_of_pos (by simp)]
      exact ih has (by simp [hvalue])
    · rw [ofColumn, List.filter_cons_of_neg (by simpa using hcolumn)]
      exact ih has ((Function.update_of_ne (Ne.symm hcolumn) _ _).trans hrow)

end Assignment

/-! ### Texts of changes -/

/-- The assignments of steps are made to one column. -/
theorem Step.exists_of_mem_assignments {c t : Template} {n : Nat} {steps : List Step}
    (h : t ∈ assignments c n steps) : ∃ (s : Step) (k : Nat), t = sql [c, " = ", s.text c k] := by
  induction steps generalizing n with
  | nil => cases h
  | cons s rest ih =>
    rcases List.mem_cons.1 h with rfl | h
    · exact ⟨s, n, rfl⟩
    · exact ih h

/-- The assignments of a change as texts. -/
def Change.texts (change : Change) : List String :=
  (SetClause.ofChange change).assignments.map
    (Template.fill (Param.textAt (SetClause.ofChange change).params))

/-- The texts of assignments whose parameters stand behind others. -/
def SetClause.textsBehind (front : List Param) (s : SetClause) : Except Fault (List String) :=
  s.assignments.mapM fun t => Statement.render ⟨t, front ++ s.params⟩

/-- The assignments as they are read from their texts. -/
def SetClause.read? (front : List Param) (s : SetClause) : Option (List Assignment) :=
  (s.textsBehind front).toOption.bind fun texts => texts.mapM Assignment.ofText?

namespace SetClause

theorem fill_assignments (front back : List Param) (changes : List Change) :
    ((ofChanges changes).shift front.length).assignments.map
        (Template.fill (Param.textAt (front ++ ((ofChanges changes).params ++ back)))) =
      changes.flatMap Change.texts := by
  induction changes generalizing front with
  | nil => rfl
  | cons change rest ih =>
    let first := ofChange change
    have hfirst : (first.assignments.map (Template.shift front.length)).map (Template.fill
        (Param.textAt (front ++ (first.params ++ ((ofChanges rest).params ++ back))))) =
          change.texts := by
      rw [List.map_map]
      exact List.map_congr_left fun t ht => Template.fill_placed (scoped_ofChange change t ht) _ _
    -- the others stand behind the parameters of this change too
    have hothers := ih (front ++ first.params)
    have hshift : ((ofChanges rest).shift (front ++ first.params).length).assignments =
        ((ofChanges rest).shift first.params.length).assignments.map
          (Template.shift front.length) := by
      simp [shift, Function.comp_def, Template.shift_shift, Nat.add_comm]
    rw [hshift, List.append_assoc] at hothers
    have hassignments : ((ofChanges (change :: rest)).shift front.length).assignments =
        first.assignments.map (Template.shift front.length) ++
          ((ofChanges rest).shift first.params.length).assignments.map
            (Template.shift front.length) := List.map_append
    have hparams : (ofChanges (change :: rest)).params = first.params ++ (ofChanges rest).params :=
      rfl
    rw [hassignments, hparams, List.append_assoc, List.map_append, hfirst, hothers]
    rfl

/-- **The texts of changes are those of each one**, wherever it stands. -/
theorem textsBehind_ofChanges (front : List Param) (changes : List Change) :
    ((ofChanges changes).shift front.length).textsBehind front =
      .ok (changes.flatMap Change.texts) := by
  have htexts := fill_assignments front [] changes
  rw [List.append_nil] at htexts
  rw [← htexts]
  refine Result.mapM_eq_ok fun t ht => Statement.render_eq ?_
  obtain ⟨u, hu, rfl⟩ := List.mem_map.1 ht
  refine ((scoped_ofChanges changes u hu).shift front.length).mono (by omega) ?_
  simp
  omega

end SetClause

namespace Change

variable {change : Change} {text : String}

/-- The only name among the parameters of a change is its column. -/
theorem name_of_mem_params {name : String}
    (h : .ident name ∈ (SetClause.ofChange change).params) : name = change.column := by
  have hnames : Param.names (SetClause.ofChange change).params = [change.column] := by
    simp [SetClause.ofChange, Param.names_flatMap, Step.names_params]
  have hname : name ∈ Param.names (SetClause.ofChange change).params :=
    List.mem_filterMap.2 ⟨_, h, rfl⟩
  rw [hnames] at hname
  exact List.mem_singleton.1 hname

/-- **An assignment names its column only.** -/
theorem reads_texts (h : text ∈ change.texts) :
    ∃ a, Assignment.ofText? text = some a ∧ a.text = text ∧ a.column = change.column ∧
      (∀ name, name ∈ a.names ↔ name = a.column) ∧
      ∀ name ∈ Token.names a.expression, name = a.column := by
  obtain ⟨t, ht, htext⟩ := List.mem_map.1 h
  let params := (SetClause.ofChange change).params
  let g := Param.tokenAt params
  have hclear := SetClause.clear_ofChange change
  have htokens : solidTokens? text = some (t.solidTokens g) := by
    rw [← htext]
    exact Template.solidTokens?_fill_textAt (SetClause.scoped_ofChange change t ht)
      (hclear.assignments t ht) hclear.params
  obtain ⟨s, n, rfl⟩ := Step.exists_of_mem_assignments ht
  let expression := (s.text (.slot 1) n).solidTokens g
  have hassignment : (sql [.slot 1, " = ", s.text (.slot 1) n]).solidTokens g =
      (Param.ident change.column).token :: ⟨.mark, "="⟩ :: expression := by
    have hequals : solid " = " = [⟨.mark, "="⟩] := by decide
    have hcolumn : g 1 = (Param.ident change.column).token := rfl
    simp [Template.slot, Template.solidTokens, hequals, hcolumn, expression]
  have hexpression : ∀ name ∈ Token.names expression, name = change.column := by
    intro name hname
    have hcolumn : Template.Nameless (.slot 1) := ⟨rfl, trivial⟩
    obtain ⟨i, hi⟩ := (s.nameless_text hcolumn).exists_of_mem hname
    rcases Param.tokenAt_cases params i with hnull | ⟨p, hp, htoken⟩
    · rw [show g i = _ from hnull] at hi
      cases hi
    · rw [show g i = _ from htoken] at hi
      obtain rfl := Param.eq_ident_of_name? hi
      exact name_of_mem_params hp
  rw [hassignment] at htokens
  refine ⟨⟨text, change.column, expression⟩, ?_, rfl, rfl, fun name => ?_, hexpression⟩
  · rw [Assignment.ofText?, htokens]
    rfl
  · have hnames : Token.names ((Param.ident change.column).token :: ⟨.mark, "="⟩ :: expression) =
        change.column :: Token.names expression := rfl
    rw [Assignment.names, htokens, Option.getD_some, hnames, List.mem_cons]
    exact or_iff_left_of_imp (hexpression name)

/-- The assignments of a change. -/
def assignments (change : Change) : List Assignment := change.texts.filterMap Assignment.ofText?

variable {a : Assignment}

theorem of_mem_assignments (h : a ∈ change.assignments) : a.column = change.column ∧
    (∀ name, name ∈ a.names ↔ name = a.column) ∧
      ∀ name ∈ Token.names a.expression, name = a.column := by
  obtain ⟨text, htext, ha⟩ := List.mem_filterMap.1 h
  obtain ⟨b, hb, -, hcolumn, hnames, hexpression⟩ := reads_texts htext
  obtain rfl : b = a := Option.some.inj (hb.symm.trans ha)
  exact ⟨hcolumn, hnames, hexpression⟩

/-- The assignments to a column are those of its own changes. -/
theorem ofColumn_flatMap_assignments (column : String) (changes : List Change) :
    Assignment.ofColumn column (changes.flatMap assignments) =
      (changes.filter fun c => c.column == column).flatMap assignments := by
  induction changes with
  | nil => rfl
  | cons change rest ih =>
    rw [Assignment.ofColumn] at ih ⊢
    rw [List.flatMap_cons, List.filter_append, ih]
    by_cases hcolumn : change.column = column
    · have hall : change.assignments.filter (fun a => a.column == column) = change.assignments :=
        List.filter_eq_self.2 fun a ha => by simp [(of_mem_assignments ha).1, hcolumn]
      rw [hall, List.filter_cons_of_pos (by simpa using hcolumn), List.flatMap_cons]
    · have hnone : change.assignments.filter (fun a => a.column == column) = [] :=
        List.filter_eq_nil_iff.2 fun a ha => by simp [(of_mem_assignments ha).1, hcolumn]
      rw [hnone, List.nil_append, List.filter_cons_of_neg (by simpa using hcolumn)]

end Change

/-- The texts of changes are read as the assignments of each one. -/
theorem SetClause.read?_ofChanges (front : List Param) (changes : List Change) :
    ((ofChanges changes).shift front.length).read? front =
      some (changes.flatMap Change.assignments) := by
  have hread : ∀ texts : List String, (∀ text ∈ texts, ∃ a, Assignment.ofText? text = some a) →
      texts.mapM Assignment.ofText? = some (texts.filterMap Assignment.ofText?) := by
    intro texts htexts
    induction texts with
    | nil => rfl
    | cons text rest ih =>
      obtain ⟨a, ha⟩ := htexts text List.mem_cons_self
      rw [List.mapM_cons, ha, ih fun t ht => htexts t (List.mem_cons_of_mem _ ht),
        List.filterMap_cons_some ha]
      rfl
  rw [SetClause.read?, textsBehind_ofChanges]
  refine (hread _ fun text htext => ?_).trans ?_
  · obtain ⟨change, -, hmem⟩ := List.mem_flatMap.1 htext
    obtain ⟨a, ha, -⟩ := Change.reads_texts hmem
    exact ⟨a, ha⟩
  · rw [List.filterMap_flatMap]
    rfl

namespace Update

variable {schema : ClassSchema} {o o' : Object} {start : Nat} {front : List Param} {s : SetClause}

/-- The assignments of an update are those of its changes. -/
theorem exists_assignments (hfront : front.length = start - 1)
    (h : compile schema o start = .ok s) : ∃ u made, ofObject schema o = .ok u ∧
      u.changes schema = .ok made ∧ s.read? front = some (made.flatMap Change.assignments) := by
  obtain ⟨u, hu, h⟩ := Result.bind_eq_ok.1 h
  obtain ⟨made, hmade, h⟩ := Result.bind_eq_ok.1 h
  cases h
  rw [← hfront]
  exact ⟨u, made, hu, hmade, SetClause.read?_ofChanges front made⟩

/-- What the assignments of an update read: their own columns, whatever was assigned before. -/
theorem own_of_read? (hfront : front.length = start - 1) (h : compile schema o start = .ok s)
    {as : List Assignment} (has : s.read? front = some as) :
    ∀ a ∈ as, (∀ name, name ∈ a.names ↔ name = a.column) ∧
      ∀ name ∈ Token.names a.expression, name = a.column := by
  obtain ⟨u, made, -, -, hread⟩ := exists_assignments hfront h
  obtain rfl : made.flatMap Change.assignments = as := Option.some.inj (hread.symm.trans has)
  intro a ha
  obtain ⟨change, -, hmem⟩ := List.mem_flatMap.1 ha
  exact (Change.of_mem_assignments hmem).2

/-- **Keys about different columns do not depend on each other.**  In another order they are
compiled or refused as before, the assignments are the same in another order, those of one column in
the same order, and a row comes to the same.  In the assignments of any update each names the column
that it is made to and no other, so a column comes to what its own assignments make of it. -/
theorem assignments_of_perm (hperm : o.Perm o')
    (hcolumns : (o.map fun e => columnOf e.1).Nodup) (hfront : front.length = start - 1) :
    ((∃ s, compile schema o start = .ok s) ↔ ∃ s, compile schema o' start = .ok s) ∧
      (∀ s s', compile schema o start = .ok s → compile schema o' start = .ok s' →
        ∃ as as', s.read? front = some as ∧ s'.read? front = some as' ∧ as.Perm as' ∧
          (∀ column, Assignment.ofColumn column as = Assignment.ofColumn column as') ∧
          ∀ (V : Type) (eval : List Token → (String → V) → V) (row : String → V),
            Assignment.ReadsNames eval → Assignment.run eval row as = Assignment.run eval row as') ∧
      ∀ o s, compile schema o start = .ok s →
        ∃ as, s.read? front = some as ∧ (∀ a ∈ as, ∀ name, name ∈ a.names ↔ name = a.column) ∧
          ∀ (V : Type) (eval : List Token → (String → V) → V) (row : String → V) (column : String),
            Assignment.ReadsNames eval → Assignment.run eval row as column =
              Assignment.run eval row (Assignment.ofColumn column as) column := by
  refine ⟨⟨exists_compile_of_perm hperm, exists_compile_of_perm hperm.symm⟩, ?_, ?_⟩
  · intro s s' hs hs'
    obtain ⟨u, made, hu, hmade, hread⟩ := exists_assignments hfront hs
    obtain ⟨u', made', hu', hmade', hread'⟩ := exists_assignments hfront hs'
    obtain ⟨hchanges, hdistinct⟩ := changes_perm hperm hcolumns hu hu' hmade hmade'
    have hcolumn : ∀ column, Assignment.ofColumn column (made.flatMap Change.assignments) =
        Assignment.ofColumn column (made'.flatMap Change.assignments) := by
      intro column
      rw [Change.ofColumn_flatMap_assignments, Change.ofColumn_flatMap_assignments,
        filter_eq_of_perm hchanges hdistinct]
    refine ⟨_, _, hread, hread', hchanges.flatMap_right _, hcolumn, fun V eval row hreads => ?_⟩
    -- a column comes to what its own assignments make of it, and these are the same
    funext column
    rw [Assignment.run_eq_run_ofColumn hreads (fun a ha => (own_of_read? hfront hs hread a ha).2)
      rfl, hcolumn, Assignment.run_eq_run_ofColumn hreads
        (fun a ha => (own_of_read? hfront hs' hread' a ha).2) rfl]
  · intro o s hs
    obtain ⟨u, made, -, -, hread⟩ := exists_assignments hfront hs
    have hown := own_of_read? hfront hs hread
    exact ⟨_, hread, fun a ha => (hown a ha).1, fun V eval row column hreads =>
      Assignment.run_eq_run_ofColumn hreads (fun a ha => (hown a ha).2) rfl⟩

/-- A class of fairs. -/
def fairSchema : ClassSchema :=
  (((ClassSchema.named "Fair").field "tags" (.arrayOf .string)).field "plan" .object).field
    "authData" .object

/-- Changes of three columns, one below a dotted key and one below the key of a provider. -/
def fairChange : Object :=
  [("plan.hall", .str "`tags` = 1"), ("_auth_data_site", .obj [("id", .str "1")]),
    ("tags", .obj [("__op", .str "AddUnique"), ("objects", .arr [.str "a", .str "b"])])]

theorem assignments_of_perm_fair :
    fairChange.Perm fairChange.reverse ∧ (fairChange.map fun e => columnOf e.1).Nodup ∧
      ∃ s s' as as', compile fairSchema fairChange 2 = .ok s ∧
        compile fairSchema fairChange.reverse 2 = .ok s' ∧
        s.read? [.ident "Fair"] = some as ∧ s'.read? [.ident "Fair"] = some as' ∧ as.Perm as' ∧
        ∀ column, Assignment.ofColumn column as = Assignment.ofColumn column as' := by
  have hperm : fairChange.Perm fairChange.reverse := (List.reverse_perm _).symm
  have hcolumns : (fairChange.map fun e => columnOf e.1).Nodup := by decide +kernel
  have hfront : [Param.ident "Fair"].length = 2 - 1 := rfl
  obtain ⟨hcompile, hsame, -⟩ := @assignments_of_perm fairSchema _ _ _ _ hperm hcolumns hfront
  obtain ⟨s, hs⟩ : ∃ s, compile fairSchema fairChange 2 = .ok s := ⟨_, rfl⟩
  obtain ⟨s', hs'⟩ := hcompile.1 ⟨s, hs⟩
  obtain ⟨as, as', hread, hread', hassignments, hcolumn, -⟩ := hsame s s' hs hs'
  exact ⟨hperm, hcolumns, s, s', as, as', hs, hs', hread, hread', hassignments, hcolumn⟩

end Update

end DocStore
