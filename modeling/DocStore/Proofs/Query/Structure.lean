import DocStore.Proofs.Query.Operands

/-!
# The structure of conditions

The tests of a filter are connected as its clauses say: by "and" within a clause and between
clauses, and by the connective of a group between its filters (`Filter.shape`).

The text of a filter's condition, read as a boolean expression, has that structure: it is an
expression over fragments, each of which is the text of one test and is read as a whole
(`Filter.exists_spells`).
-/

namespace DocStore

open Sql

/-! ### Fragments -/

namespace Sql.Template

/-- The expression of a fragment. -/
def fragment (g : Nat → Token) (t : Template) : Expr (List Token) :=
  (readPrimary (t.solidTokens g)).getD .truth

variable {g : Nat → Token} {t u : Template} {k : Nat}

theorem Narrow.shift (h : t.Narrow) : (t.shift k).Narrow := by
  intro n hn
  obtain ⟨p, hp, hshift⟩ := List.mem_map.1 hn
  cases p with
  | text s => cases hshift
  | slot m => cases hshift
  | wide m => exact h m hp

theorem Narrow.append (ht : t.Narrow) (hu : u.Narrow) : (t ++ u).Narrow := by
  intro n hn
  rcases List.mem_append.1 hn with hn | hn
  · exact ht n hn
  · exact hu n hn

theorem narrow_text (s : String) : Narrow [.text s] := by
  simp [Narrow]

theorem fragment_shift (h : t.Narrow) :
    fragment g (t.shift k) = fragment (fun n => g (n + k)) t := by
  rw [fragment, solidTokens_shift h]
  rfl

end Sql.Template

open Template (Narrow fragment solidTokens)

namespace Test

/-- The template is the condition of a test of this target, wherever its parameters stand. -/
def IsFragment (p : Target × Test) (t : Template) : Prop :=
  p.2.Full ∧ ∃ n k, t = (p.2.condition (p.1.text 1) n).shift k

variable {p : Target × Test} {t : Template} {g : Nat → Token} {x : Target}

theorem narrow_condition (test : Test) (n : Nat) : (test.condition (x.text 1) n).Narrow := by
  have hx : (x.text 1).Within 0 (1 + x.params.length + n + test.params.length) :=
    x.within_text (by omega) (by omega)
  exact (test.within_condition hx (by omega) (by omega)).narrow

namespace IsFragment

theorem narrow (h : IsFragment p t) : t.Narrow := by
  obtain ⟨-, n, k, rfl⟩ := h
  exact (narrow_condition _ n).shift

theorem shift (h : IsFragment p t) (j : Nat) : IsFragment p (t.shift j) := by
  obtain ⟨hfull, n, k, rfl⟩ := h
  exact ⟨hfull, n, k + j, Template.shift_shift _ k j⟩

/-- **The text of a test is read as one operand or one group.** -/
theorem isPrimary (h : IsFragment p t) (hg : Operands g) : t.IsPrimary g := by
  obtain ⟨hfull, n, k, rfl⟩ := h
  have hshifted : Operands fun n => g (n + k) := fun n => hg (n + k)
  rw [Template.IsPrimary, Template.solidTokens_shift (narrow_condition _ n)]
  exact isPrimary_condition hshifted (p.1.neutral_text 1) hfull

theorem isConjunction (h : IsFragment p t) (hg : Operands g) :
    IsConjunction (t.solidTokens g) [t.fragment g] := by
  obtain ⟨e, hread, he⟩ := (h.isPrimary hg).readPrimary
  rw [fragment, hread]
  exact he

end IsFragment

end Test

/-! ### Texts that spell expressions out -/

/-- The template spells out the expression: read as a conjunction, it is an expression over
fragments that agrees with it. -/
structure Sql.Template.Spells (t : Template) (s : Expr (Target × Test))
    (ks : List (Expr Template)) : Prop where
  reads : ∀ g, Operands g → IsConjunction (t.solidTokens g) (ks.map (Expr.bind (fragment g)))
  agrees : Expr.Agrees Test.IsFragment s (.conj ks)
  narrow : t.Narrow

/-- The template spells out the expressions with `OR` between them. -/
structure Sql.Template.SpellsAny (t : Template) (ss : List (Expr (Target × Test)))
    (kss : List (List (Expr Template))) : Prop where
  reads : ∀ g, Operands g →
    IsDisjunction (t.solidTokens g) (kss.map fun ks => ks.map (Expr.bind (fragment g)))
  agrees : List.Forall₂ (fun s ks => Expr.Agrees Test.IsFragment s (.conj ks)) ss kss
  narrow : t.Narrow

namespace Sql.Template

variable {t u : Template} {s r : Expr (Target × Test)} {ss rs : List (Expr (Target × Test))}
  {ks js : List (Expr Template)} {kss jss : List (List (Expr Template))}

theorem narrow_of_agrees (h : Expr.Agrees Test.IsFragment s (.conj ks)) :
    ∀ k ∈ ks, ∀ f ∈ k.atoms, Narrow f := by
  intro k hk f hf
  have hmem : f ∈ (Expr.conj ks).atoms := by
    rw [Expr.atoms_conj]
    exact List.mem_flatMap.2 ⟨k, hk, hf⟩
  obtain ⟨p, hp⟩ := h.exists_of_mem hmem
  exact hp.narrow

/-- Moved fragments are read as the fragments with other tokens for their placeholders. -/
theorem map_bind_shift (h : Expr.Agrees Test.IsFragment s (.conj ks)) (g : Nat → Token) (j : Nat) :
    (ks.map (Expr.map (Template.shift j))).map (Expr.bind (fragment g)) =
      ks.map (Expr.bind (fragment fun n => g (n + j))) := by
  rw [List.map_map]
  refine List.map_congr_left fun k hk => ?_
  rw [Function.comp_apply, Expr.bind_map]
  exact Expr.bind_congr fun f hf => fragment_shift (narrow_of_agrees h k hk f hf)

theorem agrees_shift (h : Expr.Agrees Test.IsFragment s (.conj ks)) (j : Nat) :
    Expr.Agrees Test.IsFragment s (.conj (ks.map (Expr.map (Template.shift j)))) := by
  rw [← Expr.map_conj]
  exact h.map_right fun p f hf => hf.shift j

theorem Spells.shift (h : Spells t s ks) (j : Nat) :
    Spells (Template.shift j t) s (ks.map (Expr.map (Template.shift j))) where
  reads g hg := by
    rw [solidTokens_shift h.narrow, map_bind_shift h.agrees]
    exact h.reads (fun n => g (n + j)) fun n => hg (n + j)
  agrees := agrees_shift h.agrees j
  narrow := h.narrow.shift

theorem SpellsAny.shift (h : SpellsAny t ss kss) (j : Nat) :
    SpellsAny (Template.shift j t) ss (kss.map fun ks => ks.map (Expr.map (Template.shift j))) where
  reads g hg := by
    have hmap : ∀ {ss kss},
        List.Forall₂ (fun s ks => Expr.Agrees Test.IsFragment s (.conj ks)) ss kss →
        (kss.map fun ks => ks.map (Expr.map (Template.shift j))).map
          (fun ks => ks.map (Expr.bind (fragment g))) =
        kss.map fun ks => ks.map (Expr.bind (fragment fun n => g (n + j))) := by
      intro ss kss hagrees
      induction hagrees with
      | nil => rfl
      | cons hks _ ih =>
        rw [List.map_cons, List.map_cons, ih, map_bind_shift hks]
        rfl
    rw [solidTokens_shift h.narrow, hmap h.agrees]
    exact h.reads (fun n => g (n + j)) fun n => hg (n + j)
  agrees := List.forall₂_map_right_iff.2 (h.agrees.imp fun s ks hks => agrees_shift hks j)
  narrow := h.narrow.shift

theorem Spells.ne_nil (h : Spells t s ks) : t ≠ [] := by
  -- an empty template has no operand to end with, whatever its placeholders are
  rintro rfl
  have hoperand : Token.part ⟨.number, ""⟩ = .operand := by decide
  obtain ⟨conjuncts, operand, e, hrun, he, -⟩ :=
    h.reads (fun _ => ⟨.number, ""⟩) (fun _ => hoperand) [] ⟨[], []⟩
  cases hrun
  cases he

theorem Spells.any (h : Spells t s ks) : SpellsAny t [s] [ks] where
  reads g hg := (h.reads g hg).isDisjunction
  agrees := .cons h.agrees .nil
  narrow := h.narrow

/-- Texts with `AND` between them. -/
theorem Spells.and {separator : String} (ht : Spells t s ks) (hu : Spells u (.conj ss) js)
    (hsep : solid separator = [andToken]) :
    Spells (sql [t, separator, u]) (.conj (s :: ss)) (ks ++ js) where
  reads g hg := by
    have hboth := (ht.reads g hg).append (hu.reads g hg)
    simpa [hsep] using hboth
  agrees := ht.agrees.conj_cons hu.agrees
  narrow := by simpa [sql] using ht.narrow.append ((narrow_text separator).append hu.narrow)

/-- Texts with `OR` between them. -/
theorem Spells.or {separator : String} (ht : Spells t s ks) (hu : SpellsAny u ss kss)
    (hsep : solid separator = [orToken]) :
    SpellsAny (sql [t, separator, u]) (s :: ss) (ks :: kss) where
  reads g hg := by
    have hboth := (ht.reads g hg).isDisjunction.append (hu.reads g hg)
    simpa [hsep] using hboth
  agrees := .cons ht.agrees hu.agrees
  narrow := by simpa [sql] using ht.narrow.append ((narrow_text separator).append hu.narrow)

/-- A disjunction in parentheses is one conjunct. -/
theorem SpellsAny.group (h : SpellsAny t ss kss) :
    Spells (sql ["(", t, ")"]) (.disj ss) [.disj (kss.map .conj)] where
  reads g hg := by
    have hgroup := isConjunction_group (h.reads g hg)
    have hks : Expr.bind (fragment g) (.disj (kss.map .conj)) =
        .disj ((kss.map fun ks => ks.map (Expr.bind (fragment g))).map .conj) := by
      simp [Expr.bind_disj, Expr.bind_conj, Function.comp_def]
    rw [List.map_singleton, hks]
    exact hgroup
  agrees := .disj (List.forall₂_map_right_iff.2 h.agrees)
  narrow := by simpa [sql] using (narrow_text "(").append (h.narrow.append (narrow_text ")"))

/-- A conjunction in parentheses is one conjunct. -/
theorem Spells.group (h : Spells t s ks) : Spells (sql ["(", t, ")"]) s [.conj ks] :=
  h.any.group

theorem spells_true : Spells "TRUE" .truth [.truth] where
  reads g hg := by
    have hread : IsConjunction [⟨.word, "TRUE"⟩] [operandExpr [⟨.word, "TRUE"⟩]] :=
      isConjunction_of_runDepth (by decide)
    exact hread
  agrees := .truth
  narrow := narrow_text "TRUE"

end Sql.Template

open Template (Spells SpellsAny)

namespace WhereClause

theorem spells_numbered (x : Target) {tests : List Test} (hne : tests ≠ [])
    (hfull : ∀ t ∈ tests, t.Full) (n : Nat) :
    ∃ ks, Spells
      (.join " AND " ((Test.numbered n tests).map fun t => t.2.condition (x.text 1) t.1))
      (.conj (tests.map fun t => .atom (x, t))) ks := by
  induction tests generalizing n with
  | nil => exact absurd rfl hne
  | cons t rest ih =>
    have hfragment : Test.IsFragment (x, t) (t.condition (x.text 1) n) :=
      ⟨hfull t List.mem_cons_self, n, 0, (Template.shift_zero _).symm⟩
    have hone : Spells (t.condition (x.text 1) n) (.atom (x, t))
        [.atom (t.condition (x.text 1) n)] :=
      ⟨fun g hg => hfragment.isConjunction hg, .atom hfragment, hfragment.narrow⟩
    cases rest with
    | nil => exact ⟨_, hone⟩
    | cons u rest =>
      -- the tests behind the first are numbered behind its parameters
      obtain ⟨ks, hks⟩ := ih (List.cons_ne_nil _ _)
        (fun v hv => hfull v (List.mem_cons_of_mem _ hv)) (n + t.params.length)
      have hsep : solid " AND " = [andToken] := by decide
      have hboth := hone.and hks hsep
      rw [sql, List.flatten_cons, List.flatten_cons, List.flatten_cons, List.flatten_nil,
        List.append_nil] at hboth
      exact ⟨_, hboth⟩

theorem spells_ofTests (x : Target) {tests : List Test} (hne : tests ≠ [])
    (hfull : ∀ t ∈ tests, t.Full) :
    ∃ ks, Spells (ofTests x tests).pattern (.conj (tests.map fun t => .atom (x, t))) ks :=
  spells_numbered x hne hfull (x.params.length + 1)

variable {ws : List WhereClause} {ss : List (Expr (Target × Test))}

/-- Conditions with `AND` between them. -/
theorem spells_joinAnd {separator : String} (hsep : solid separator = [andToken]) (hne : ws ≠ [])
    (h : List.Forall₂ (fun w s => ∃ ks, Spells w.pattern s ks) ws ss) :
    ∃ ks, Spells (join separator ws).pattern (.conj ss) ks := by
  induction h with
  | nil => exact absurd rfl hne
  | @cons w s ws ss hw hws ih =>
    obtain ⟨ks, hks⟩ := hw
    cases hws with
    | nil => exact ⟨ks, hks⟩
    | cons hv hws =>
      -- the other conditions stand behind the parameters of the first
      obtain ⟨js, hjs⟩ := ih (List.cons_ne_nil _ _)
      exact ⟨_, hks.and (hjs.shift w.params.length) hsep⟩

/-- Conditions with `OR` between them. -/
theorem spells_joinOr {separator : String} (hsep : solid separator = [orToken]) (hne : ws ≠ [])
    (h : List.Forall₂ (fun w s => ∃ ks, Spells w.pattern s ks) ws ss) :
    ∃ kss, SpellsAny (join separator ws).pattern ss kss := by
  induction h with
  | nil => exact absurd rfl hne
  | @cons w s ws ss hw hws ih =>
    obtain ⟨ks, hks⟩ := hw
    cases hws with
    | nil => exact ⟨_, hks.any⟩
    | cons hv hws =>
      obtain ⟨jss, hjss⟩ := ih (List.cons_ne_nil _ _)
      exact ⟨_, hks.or (hjss.shift w.params.length) hsep⟩

theorem spells_condition {w : WhereClause} {s : Expr (Target × Test)} {ks : List (Expr Template)}
    (h : Spells w.pattern s ks) : Spells w.condition s ks := by
  rw [condition, if_neg (by simpa using h.ne_nil)]
  exact h

/-- Conditions with `AND` between them, where no condition holds. -/
theorem spells_condition_join (h : List.Forall₂ (fun w s => ∃ ks, Spells w.pattern s ks) ws ss) :
    ∃ ks, Spells (join " AND " ws).condition (.conj ss) ks := by
  cases h with
  | nil => exact ⟨_, Template.spells_true⟩
  | cons hw hws =>
    have hsep : solid " AND " = [andToken] := by decide
    obtain ⟨ks, hks⟩ := spells_joinAnd hsep (List.cons_ne_nil _ _) (.cons hw hws)
    exact ⟨ks, spells_condition hks⟩

end WhereClause

/-! ### Filters -/

mutual

/-- How the tests of a clause are connected. -/
def RowClause.shape : RowClause → Expr (Target × Test)
  | .tests target applied => .conj (applied.map fun t => .atom (target, t))
  | .group .and filters => .conj (RowClause.groupShapes filters)
  | .group .or filters => .disj (RowClause.groupShapes filters)

/-- The shapes of clauses in order. -/
def RowClause.clauseShapes : List RowClause → List (Expr (Target × Test))
  | [] => []
  | c :: cs => c.shape :: RowClause.clauseShapes cs

/-- The shapes of filters in order. -/
def RowClause.groupShapes : List (List RowClause) → List (Expr (Target × Test))
  | [] => []
  | f :: fs => .conj (RowClause.clauseShapes f) :: RowClause.groupShapes fs

end

/-- How the tests of a filter are connected. -/
def Filter.shape (f : Filter) : Expr (Target × Test) := .conj (RowClause.clauseShapes f)

mutual

/-- No clause or group is empty. -/
def RowClause.Full : RowClause → Prop
  | .tests _ applied => applied ≠ [] ∧ ∀ t ∈ applied, t.Full
  | .group _ filters => filters ≠ [] ∧ RowClause.GroupFull filters

/-- No clause in a filter is empty. -/
def RowClause.ClausesFull : List RowClause → Prop
  | [] => True
  | c :: cs => c.Full ∧ RowClause.ClausesFull cs

/-- No clause in a list of filters is empty. -/
def RowClause.GroupFull : List (List RowClause) → Prop
  | [] => True
  | f :: fs => RowClause.ClausesFull f ∧ RowClause.GroupFull fs

end

theorem RowClause.groupParts_ne_nil {filters : List (List RowClause)} (h : filters ≠ []) :
    RowClause.groupParts filters ≠ [] := by
  cases filters with
  | nil => exact absurd rfl h
  | cons f fs =>
    rw [RowClause.groupParts]
    exact List.cons_ne_nil _ _

mutual

theorem RowClause.exists_spells :
    (c : RowClause) → c.Full → ∃ ks, Spells c.whereClause.pattern c.shape ks
  | .tests x applied, hfull => by
    rw [RowClause.whereClause, RowClause.shape]
    exact WhereClause.spells_ofTests x hfull.1 hfull.2
  | .group .and filters, hfull => by
    rw [RowClause.whereClause, RowClause.shape]
    have hsep : solid " AND " = [andToken] := by decide
    obtain ⟨ks, hks⟩ := WhereClause.spells_joinAnd hsep
      (RowClause.groupParts_ne_nil hfull.1) (RowClause.spells_groupParts filters hfull.2)
    exact ⟨_, hks.group⟩
  | .group .or filters, hfull => by
    rw [RowClause.whereClause, RowClause.shape]
    have hsep : solid " OR " = [orToken] := by decide
    obtain ⟨kss, hkss⟩ := WhereClause.spells_joinOr hsep
      (RowClause.groupParts_ne_nil hfull.1) (RowClause.spells_groupParts filters hfull.2)
    exact ⟨_, hkss.group⟩

theorem RowClause.spells_clauseParts :
    (cs : List RowClause) → RowClause.ClausesFull cs →
      List.Forall₂ (fun w s => ∃ ks, Spells w.pattern s ks) (RowClause.clauseParts cs)
        (RowClause.clauseShapes cs)
  | [], _ => by
    rw [RowClause.clauseParts, RowClause.clauseShapes]
    exact .nil
  | c :: cs, hfull => by
    rw [RowClause.clauseParts, RowClause.clauseShapes]
    exact .cons (RowClause.exists_spells c hfull.1) (RowClause.spells_clauseParts cs hfull.2)

theorem RowClause.spells_groupParts :
    (fs : List (List RowClause)) → RowClause.GroupFull fs →
      List.Forall₂ (fun w s => ∃ ks, Spells w.pattern s ks) (RowClause.groupParts fs)
        (RowClause.groupShapes fs)
  | [], _ => by
    rw [RowClause.groupParts, RowClause.groupShapes]
    exact .nil
  | f :: fs, hfull => by
    rw [RowClause.groupParts, RowClause.groupShapes]
    exact .cons (WhereClause.spells_condition_join (RowClause.spells_clauseParts f hfull.1))
      (RowClause.spells_groupParts fs hfull.2)

end

/-- **The text of a filter's condition has the filter's structure.** -/
theorem Filter.exists_spells {f : Filter} (hfull : RowClause.ClausesFull f) :
    ∃ ks, Spells f.whereClause.condition f.shape ks :=
  WhereClause.spells_condition_join (RowClause.spells_clauseParts f hfull)

end DocStore
