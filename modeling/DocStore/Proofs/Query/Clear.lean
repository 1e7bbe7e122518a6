import DocStore.Proofs.Query.Scope
import DocStore.Proofs.Sql.Clear

/-!
# Conditions keep their parameters apart

Every template of a condition is clear, and none of its parameters is a raw fragment
(`Filter.clear_whereClause`): whatever a query compares with stays one token of the condition.
-/

namespace DocStore

open Sql

open Template (Clear)

variable {n : Nat}

/-- No parameter is a raw fragment. -/
def Sql.Param.AllTokens (params : List Param) : Prop := ∀ p ∈ params, p.kind?.isSome = true

namespace Sql.Param

@[simp] theorem allTokens_nil : AllTokens [] := by simp [AllTokens]

@[simp] theorem allTokens_cons {p : Param} {params : List Param} :
    AllTokens (p :: params) ↔ p.kind?.isSome = true ∧ AllTokens params := by
  simp [AllTokens]

@[simp] theorem allTokens_append {params more : List Param} :
    AllTokens (params ++ more) ↔ AllTokens params ∧ AllTokens more := by
  simp only [AllTokens, List.mem_append]
  constructor
  · intro h
    exact ⟨fun p hp => h p (.inl hp), fun p hp => h p (.inr hp)⟩
  · rintro ⟨hparams, hmore⟩ p (hp | hp)
    · exact hparams p hp
    · exact hmore p hp

theorem allTokens_map {α : Type} {f : α → Param} (h : ∀ a, (f a).kind?.isSome = true)
    (as : List α) : AllTokens (as.map f) := by
  intro p hp
  obtain ⟨a, -, rfl⟩ := List.mem_map.1 hp
  exact h a

theorem allTokens_flatMap {α : Type} {f : α → List Param} {as : List α}
    (h : ∀ a ∈ as, AllTokens (f a)) : AllTokens (as.flatMap f) := by
  intro p hp
  obtain ⟨a, ha, hp⟩ := List.mem_flatMap.1 hp
  exact h a ha p hp

@[simp] theorem isSome_kind?_ident (name : String) : (ident name).kind?.isSome = true := rfl

@[simp] theorem isSome_kind?_value (v : Json) : (value v).kind?.isSome = true := by
  cases v <;> rfl

@[simp] theorem isSome_kind?_json (v : Json) : (json v).kind?.isSome = true := rfl

@[simp] theorem isSome_kind?_text (s : String) : (text s).kind?.isSome = true := rfl

end Sql.Param

/-! ### Targets and tests -/

theorem Target.clear_text (x : Target) : Clear true (x.text n) := by
  unfold text
  split
  · exact .slot rfl (.text rfl (.slot rfl .nil))
  · exact ⟨rfl, trivial⟩

theorem Target.allTokens_params (x : Target) : Param.AllTokens x.params := by
  unfold params
  split <;> simp

namespace Test

variable {x : Template}

theorem clear_containment (hx : Clear true x) {expected : String}
    (h : expected = "1" ∨ expected = "0") : Clear true (containment x n expected) := by
  have hexpected : opens (leavesFree false ") = ") expected = true := by
    rcases h with rfl | rfl <;> decide
  exact .text rfl (.part hx rfl (.text rfl (.slot rfl (.text rfl (.text hexpected .nil)))))

theorem clear_containments (hx : Clear true x) {expected : String}
    (h : expected = "1" ∨ expected = "0") (count : Nat) :
    ∀ t ∈ containments x expected n count, Clear true t := by
  intro t ht
  obtain ⟨i, -, rfl⟩ := List.mem_map.1 ht
  exact clear_containment hx h

theorem clear_distance (hx : Clear true x) : Clear true (distance x n) :=
  .text rfl (.part hx rfl (.text rfl (.slot rfl (.text rfl .nil))))

theorem clear_relevance (hx : Clear true x) : Clear true (relevance x n) :=
  .text rfl (.part hx rfl (.text rfl (.slot rfl (.text rfl .nil))))

theorem clear_symbol (relation : Relation) {free : Bool} (hfree : free = true) {t : Template}
    (h : Clear true t) : Clear free (sql [relation.symbol, " ", t]) := by
  subst hfree
  -- the symbols are words and marks with a blank behind them
  have hstep : opens true relation.symbol = true ∧
      opens (leavesFree true relation.symbol) " " = true ∧
      leavesFree (leavesFree true relation.symbol) " " = true := by
    cases relation with
    | equal | different => decide
    | ordered comparison => cases comparison <;> decide
  exact .text hstep.1 (.text hstep.2.1 (.part h hstep.2.2 .nil))

theorem clear_condition (hx : Clear true x) (t : Test) : Clear true (t.condition x n) := by
  induction t with
  | always => exact ⟨by decide, trivial⟩
  | isNull | isPresent => exact .part hx rfl (.text rfl .nil)
  | scalar relation operand =>
    exact .part hx rfl (.text rfl (clear_symbol relation rfl ⟨rfl, trivial⟩))
  | among operands | notAmong operands =>
    exact .part hx rfl (.text rfl (.part (.join rfl rfl (.slotsFrom rfl operands.length)) rfl
      (.text rfl .nil)))
  | holds items => exact clear_containment hx (.inl rfl)
  | lacks items => exact clear_containment hx (.inr rfl)
  | holdsAny items =>
    exact .text rfl (.part (.join rfl rfl (clear_containments hx (.inl rfl) items.length)) rfl
      (.text rfl .nil))
  | holdsNone items =>
    exact .text rfl (.part (.join rfl rfl (clear_containments hx (.inr rfl) items.length)) rfl
      (.text rfl .nil))
  | atPoint wkt | notAtPoint wkt | regex pattern =>
    exact .text rfl (.part hx rfl (.text rfl (.slot rfl (.text rfl .nil))))
  | text term => exact clear_relevance hx
  | near origin reach =>
    cases reach with
    | none => exact .part hx rfl (.text rfl .nil)
    | some meters =>
      exact .part (clear_distance hx) rfl (.text rfl (.slot rfl .nil))
  | inBox corner opposite | inPolygon ring =>
    exact .text rfl (.slot rfl (.text rfl (.part hx rfl (.text rfl .nil))))
  | orNull test ih =>
    exact .text rfl (.part ih rfl (.text rfl (.part hx rfl (.text rfl .nil))))
  | nullOr test ih | presentAnd test ih =>
    exact .text rfl (.part hx rfl (.text rfl (.part ih rfl (.text rfl .nil))))

theorem clear_sort? (hx : Clear true x) {t : Test} {order : Template}
    (h : t.sort? x n = some order) : Clear true order := by
  unfold sort? at h
  split at h
  · cases h
    exact .part (clear_distance hx) rfl (.text rfl .nil)
  · cases h

theorem clear_score? (hx : Clear true x) {t : Test} {score : Template}
    (h : t.score? x n = some score) : Clear true score := by
  unfold score? at h
  split at h
  · cases h
    exact clear_relevance hx
  · cases h

theorem allTokens_params (t : Test) : Param.AllTokens t.params := by
  induction t with
  | always | isNull | isPresent => simp [params]
  | scalar relation operand => simp [params]
  | among operands | notAmong operands => exact Param.allTokens_map (by simp) operands
  | holds items | lacks items => simp [params]
  | holdsAny items | holdsNone items => exact Param.allTokens_map (by simp) items
  | atPoint wkt | notAtPoint wkt | regex pattern | text term => simp [params]
  | near origin reach => cases reach <;> simp [params]
  | inBox corner opposite | inPolygon ring => simp [params]
  | orNull test ih | nullOr test ih | presentAnd test ih => exact ih

end Test

/-! ### Conditions -/

namespace WhereClause

/-- All templates of a condition are clear, and its parameters are tokens. -/
structure Clear (w : WhereClause) : Prop where
  pattern : Template.Clear true w.pattern
  sorts : ∀ t ∈ w.sorts, Template.Clear true t
  score : ∀ t ∈ w.score, Template.Clear true t
  params : Param.AllTokens w.params

theorem clear_none : none.Clear where
  pattern := trivial
  sorts := nofun
  score := nofun
  params := Param.allTokens_nil

theorem clear_ofTests (x : Target) (tests : List Test) : (ofTests x tests).Clear := by
  have hx : Template.Clear true (x.text 1) := x.clear_text
  constructor
  · refine .join rfl rfl fun t ht => ?_
    obtain ⟨e, -, rfl⟩ := List.mem_map.1 ht
    exact e.2.clear_condition hx
  · intro t ht
    obtain ⟨e, -, ht⟩ := List.mem_filterMap.1 ht
    exact Test.clear_sort? hx ht
  · intro t ht
    obtain ⟨e, -, ht⟩ := List.exists_of_findSome?_eq_some ht
    exact Test.clear_score? hx ht
  · exact Param.allTokens_append.2
      ⟨x.allTokens_params, Param.allTokens_flatMap fun t _ => t.allTokens_params⟩

theorem Clear.shift {w : WhereClause} (h : w.Clear) (k : Nat) : (w.shift k).Clear where
  pattern := h.pattern.shift k
  sorts := by
    intro t ht
    obtain ⟨u, hu, rfl⟩ := List.mem_map.1 ht
    exact (h.sorts u hu).shift k
  score := by
    intro t ht
    obtain ⟨u, hu, rfl⟩ := Option.map_eq_some_iff.1 ht
    exact (h.score u hu).shift k
  params := h.params

theorem Clear.beside {a b : WhereClause} (ha : a.Clear) (hb : b.Clear) {separator : String}
    (hopens : opens false separator = true) (hfree : leavesFree false separator = true) :
    (a.beside separator b).Clear where
  pattern := .part ha.pattern rfl (.text hopens
    (.part (hb.shift a.params.length).pattern hfree .nil))
  sorts := by
    intro t ht
    rcases List.mem_append.1 ht with ht | ht
    · exact ha.sorts t ht
    · exact (hb.shift _).sorts t ht
  score := by
    intro t ht
    change t ∈ (a.score <|> (b.shift a.params.length).score) at ht
    cases hscore : a.score with
    | some s =>
      rw [hscore] at ht
      exact ha.score t (by rw [hscore]; exact ht)
    | none =>
      rw [hscore] at ht
      exact (hb.shift _).score t ht
  params := Param.allTokens_append.2 ⟨ha.params, hb.params⟩

theorem Clear.parenthesized {w : WhereClause} (h : w.Clear) : w.parenthesized.Clear where
  pattern := .text rfl (.part h.pattern rfl (.text rfl .nil))
  sorts := h.sorts
  score := h.score
  params := h.params

theorem Clear.condition {w : WhereClause} (h : w.Clear) : Template.Clear true w.condition := by
  unfold WhereClause.condition
  split
  · exact ⟨by decide, trivial⟩
  · exact h.pattern

theorem Clear.spelled {w : WhereClause} (h : w.Clear) : w.spelled.Clear where
  pattern := h.condition
  sorts := h.sorts
  score := h.score
  params := h.params

end WhereClause

theorem Connective.clear_symbol (connective : Connective) :
    opens false (" " ++ connective.symbol ++ " ") = true ∧
      leavesFree false (" " ++ connective.symbol ++ " ") = true := by
  cases connective <;> decide

/-- **A filter's condition keeps its parameters apart.** -/
theorem Filter.clear_whereClause (f : Filter) : f.whereClause.Clear := by
  have hkept : WhereClause.IsKept WhereClause.Clear :=
    { none := WhereClause.clear_none
      ofTests := WhereClause.clear_ofTests
      beside := fun connective _ _ ha hb =>
        ha.beside hb connective.clear_symbol.1 connective.clear_symbol.2
      parenthesized := fun _ h => h.parenthesized
      spelled := fun _ h => h.spelled }
  exact hkept.whereClause f

end DocStore
