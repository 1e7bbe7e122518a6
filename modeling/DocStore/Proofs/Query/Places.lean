import DocStore.Proofs.Query.Tree
import DocStore.Proofs.Query.Writing

/-!
# Where constraints stand

Every test of a filter stands in the condition as it is written for its own numbers, and the
parameters of its target and its operands are those that it numbers (`WhereClause.Places`), however
deep the groups are that it stands in (`Filter.places_of_mem_atoms`).  So it is with every
constraint of a query that compiles (`Query.exists_test_of_mem_tree`).
-/

namespace DocStore

open Sql

/-- Parameters that stand among others, the first of them at number `n`. -/
def Sql.Param.StandAt (n : Nat) (ps params : List Param) : Prop :=
  ∃ front back, params = front ++ (ps ++ back) ∧ n = front.length + 1

namespace Sql.Param.StandAt

variable {n : Nat} {ps params : List Param}

theorem append_left (h : StandAt n ps params) (front : List Param) :
    StandAt (n + front.length) ps (front ++ params) := by
  obtain ⟨before, back, rfl, rfl⟩ := h
  refine ⟨front ++ before, back, by simp, ?_⟩
  simp
  omega

theorem append_right (h : StandAt n ps params) (back : List Param) :
    StandAt n ps (params ++ back) := by
  obtain ⟨front, behind, rfl, rfl⟩ := h
  exact ⟨front, behind ++ back, by simp, rfl⟩

/-- Parameters that stand among those that stand somewhere. -/
theorem inner {inside : List Param} {k : Nat} (h : StandAt n ps params)
    (hinside : StandAt (k + 1) inside ps) : StandAt (n + k) inside params := by
  obtain ⟨front, back, rfl, rfl⟩ := h
  obtain ⟨before, behind, rfl, hk⟩ := hinside
  refine ⟨front ++ before, behind ++ back, by simp, ?_⟩
  rw [List.length_append]
  omega

/-- What is filled in for a parameter that stands somewhere. -/
theorem textAt {p : Param} (h : StandAt n (p :: ps) params) : Param.textAt params n = p.render := by
  obtain ⟨front, back, rfl, rfl⟩ := h
  simp [Param.textAt]

end Sql.Param.StandAt

/-- In a list whose items are numbered one behind the other, each stands with the number of its own
parameters. -/
theorem Sql.Param.exists_standAt {α β : Type} (given : α → List Param) (item : Nat → α → β)
    (items : Nat → List α → List β)
    (hcons : ∀ n a rest, items n (a :: rest) = item n a :: items (n + (given a).length) rest)
    {a : α} {as : List α} (h : a ∈ as) (front back : List Param) :
    ∃ n, item n a ∈ items (front.length + 1) as ∧
      StandAt n (given a) (front ++ (as.flatMap given ++ back)) := by
  induction as generalizing front with
  | nil => cases h
  | cons first rest ih =>
    rw [hcons, List.flatMap_cons, List.append_assoc]
    rcases List.mem_cons.1 h with rfl | h
    · exact ⟨_, List.mem_cons_self, front, rest.flatMap given ++ back, rfl, rfl⟩
    · -- the others are numbered behind the parameters of the first
      obtain ⟨n, hn, hstand⟩ := ih h (front ++ given first)
      rw [List.length_append, Nat.add_right_comm] at hn
      rw [List.append_assoc] at hstand
      exact ⟨n, List.mem_cons_of_mem _ hn, hstand⟩

/-- A part stands in what parts are joined to. -/
theorem Sql.Template.infix_join {separator : String} {t : Template} {parts : List Template}
    (h : t ∈ parts) : t <:+: join separator parts := by
  induction parts with
  | nil => cases h
  | cons u rest ih =>
    cases rest with
    | nil =>
      obtain rfl := List.mem_singleton.1 h
      exact List.infix_rfl
    | cons v rest =>
      rcases List.mem_cons.1 h with rfl | h
      · exact (List.prefix_append _ _).isInfix
      · have hrest : join separator (v :: rest) <:+: join separator (u :: v :: rest) :=
          ⟨u ++ [.text separator], [], by simp [join]⟩
        exact (ih h).trans hrest

open Param (StandAt)

namespace WhereClause

/-- The condition of a test stands in that of a clause, with the numbers of its own parameters. -/
def Places (w : WhereClause) (p : Target × Test) : Prop :=
  ∃ i n, p.2.condition (p.1.text i) n <:+: w.pattern ∧ StandAt i p.1.params w.params ∧
    StandAt n p.2.params w.params

variable {w : WhereClause} {ws : List WhereClause} {p : Target × Test} {separator : String}

theorem places_ofTests (x : Target) {tests : List Test} {t : Test} (h : t ∈ tests) :
    (ofTests x tests).Places (x, t) := by
  obtain ⟨n, hn, htest⟩ :=
    Param.exists_standAt Test.params Prod.mk Test.numbered (fun _ _ _ => rfl) h x.params []
  rw [List.append_nil] at htest
  exact ⟨1, n, Template.infix_join (List.mem_map.2 ⟨_, hn, rfl⟩), ⟨[], _, rfl, rfl⟩, htest⟩

/-- A test that is placed behind other parameters. -/
theorem Places.shift (h : w.Places p) (front : List Param) :
    ∃ i n, p.2.condition (p.1.text i) n <:+: (w.shift front.length).pattern ∧
      StandAt i p.1.params (front ++ w.params) ∧ StandAt n p.2.params (front ++ w.params) := by
  obtain ⟨i, n, hcondition, htarget, htest⟩ := h
  refine ⟨i + front.length, n + front.length, ?_, htarget.append_left front,
    htest.append_left front⟩
  have hshifted := hcondition.map (Piece.shift front.length)
  rwa [show List.map _ (p.2.condition _ n) = Template.shift front.length _ from rfl,
    Test.shift_condition, Target.shift_text] at hshifted

theorem Places.beside_left (h : w.Places p) (v : WhereClause) :
    (w.beside separator v).Places p := by
  obtain ⟨i, n, hcondition, htarget, htest⟩ := h
  exact ⟨i, n, hcondition.trans (List.prefix_append _ _).isInfix, htarget.append_right _,
    htest.append_right _⟩

theorem Places.beside_right (h : w.Places p) (v : WhereClause) :
    (v.beside separator w).Places p := by
  obtain ⟨i, n, hcondition, htarget, htest⟩ := h.shift v.params
  refine ⟨i, n, hcondition.trans ?_, htarget, htest⟩
  exact ⟨v.pattern ++ [.text separator], [], by simp [beside, sql]⟩

theorem Places.join (hw : w ∈ ws) (h : w.Places p) : (WhereClause.join separator ws).Places p := by
  induction ws with
  | nil => cases hw
  | cons v rest ih =>
    cases rest with
    | nil =>
      obtain rfl := List.mem_singleton.1 hw
      exact h
    | cons u rest =>
      rcases List.mem_cons.1 hw with rfl | hw
      · exact h.beside_left _
      · exact (ih hw).beside_right v

theorem Places.parenthesized (h : w.Places p) : w.parenthesized.Places p := by
  obtain ⟨i, n, hcondition, htarget, htest⟩ := h
  refine ⟨i, n, hcondition.trans ?_, htarget, htest⟩
  exact ⟨[.text "("], [.text ")"], by simp [WhereClause.parenthesized, sql]⟩

theorem Places.spelled (h : w.Places p) : w.spelled.Places p := by
  obtain ⟨i, n, hcondition, htarget, htest⟩ := h
  refine ⟨i, n, ?_, htarget, htest⟩
  show _ <:+: w.condition
  unfold WhereClause.condition
  split
  · next hempty =>
    rw [List.isEmpty_iff.1 hempty, List.infix_nil] at hcondition
    rw [hcondition]
    exact List.nil_infix
  · exact hcondition

end WhereClause

/-! ### Filters -/

mutual

theorem RowClause.places_of_mem_atoms : (c : RowClause) → {p : Target × Test} →
    p ∈ c.shape.atoms → c.whereClause.Places p
  | .tests x applied, p, hp => by
    rw [RowClause.shape, Expr.atoms_conj, List.flatMap_map] at hp
    obtain ⟨t, ht, hp⟩ := List.mem_flatMap.1 hp
    obtain rfl := List.mem_singleton.1 hp
    rw [RowClause.whereClause]
    exact WhereClause.places_ofTests x ht
  | .group connective filters, p, hp => by
    have hatoms : p ∈ (RowClause.groupShapes filters).flatMap Expr.atoms := by
      cases connective with
      | and => rwa [RowClause.shape, Expr.atoms_conj] at hp
      | or => rwa [RowClause.shape, Expr.atoms_disj] at hp
    obtain ⟨w, hw, hplaces⟩ := RowClause.places_of_mem_groupShapes filters hatoms
    rw [RowClause.whereClause]
    exact (hplaces.join hw).parenthesized

theorem RowClause.places_of_mem_clauseShapes : (cs : List RowClause) → {p : Target × Test} →
    p ∈ (RowClause.clauseShapes cs).flatMap Expr.atoms →
      ∃ w ∈ RowClause.clauseParts cs, w.Places p
  | [], p, hp => by cases hp
  | c :: cs, p, hp => by
    rw [RowClause.clauseShapes, List.flatMap_cons, List.mem_append] at hp
    rw [RowClause.clauseParts]
    rcases hp with hp | hp
    · exact ⟨_, List.mem_cons_self, RowClause.places_of_mem_atoms c hp⟩
    · obtain ⟨w, hw, hplaces⟩ := RowClause.places_of_mem_clauseShapes cs hp
      exact ⟨w, List.mem_cons_of_mem _ hw, hplaces⟩

theorem RowClause.places_of_mem_groupShapes : (fs : List (List RowClause)) →
    {p : Target × Test} → p ∈ (RowClause.groupShapes fs).flatMap Expr.atoms →
      ∃ w ∈ RowClause.groupParts fs, w.Places p
  | [], p, hp => by cases hp
  | f :: fs, p, hp => by
    rw [RowClause.groupShapes, List.flatMap_cons, List.mem_append, Expr.atoms_conj] at hp
    rw [RowClause.groupParts]
    rcases hp with hp | hp
    · obtain ⟨w, hw, hplaces⟩ := RowClause.places_of_mem_clauseShapes f hp
      exact ⟨_, List.mem_cons_self, (hplaces.join hw).spelled⟩
    · obtain ⟨w, hw, hplaces⟩ := RowClause.places_of_mem_groupShapes fs hp
      exact ⟨w, List.mem_cons_of_mem _ hw, hplaces⟩

end

/-- **Every test stands in the condition of its filter**, with its own parameters. -/
theorem Filter.places_of_mem_atoms (f : Filter) {p : Target × Test} (hp : p ∈ f.shape.atoms) :
    f.whereClause.Places p := by
  rw [Filter.shape, Expr.atoms_conj] at hp
  obtain ⟨w, hw, hplaces⟩ := RowClause.places_of_mem_clauseShapes f hp
  exact hplaces.join hw

/-! ### Queries -/

/-- **Every constraint of a query comes to a test**, which stands in the condition of the query with
its own parameters, behind those in front of the query. -/
theorem Query.exists_test_of_mem_tree {schema : ClassSchema} {v : Json} {q : Query}
    {front : List Param} {w : WhereClause} {leaf : Leaf} (hread : ofJson v = .ok q)
    (hcompile : q.compile schema (front.length + 1) = .ok w)
    (hleaf : leaf ∈ (tree schema.storage v).atoms) :
    ∃ (x : Target) (test : Test) (i n : Nat), leaf.LowersTo schema.storage (x, test) ∧
      test.condition (x.text i) n <:+: w.pattern ∧ StandAt i x.params (front ++ w.params) ∧
      StandAt n test.params (front ++ w.params) := by
  obtain ⟨f, hfilter, rfl⟩ := Result.map_eq_ok.1 hcompile
  obtain ⟨⟨x, test⟩, hp, hlowers⟩ := (agrees_tree v hread hfilter).1.exists_mem hleaf
  obtain ⟨i, n, hcondition, htarget, htest⟩ := (f.places_of_mem_atoms hp).shift front
  exact ⟨x, test, i, n, hlowers, hcondition, htarget, htest⟩

end DocStore
