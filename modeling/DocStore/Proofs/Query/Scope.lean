import DocStore.Proofs.Sql.Scope
import DocStore.Query.Filter

/-!
# Placeholders of conditions

Every template of a condition numbers the condition's own parameters: a target those of its column
and path, a test its operands, and a whole filter all of them from one on
(`Filter.scoped_whereClause`).
-/

namespace DocStore

open Sql

variable {lo hi n : Nat}

namespace Target

theorem length_params (x : Target) : x.params.length = if x.isNested then 2 else 1 := by
  unfold params
  split <;> rfl

theorem within_text (x : Target) (hlo : lo ≤ n) (hhi : n + x.params.length ≤ hi) :
    (x.text n).Within lo hi := by
  rw [length_params] at hhi
  unfold text
  split
  · next hnested =>
    rw [if_pos hnested] at hhi
    simp
    omega
  · next hplain =>
    rw [if_neg hplain] at hhi
    simp
    omega

end Target

namespace Test

variable {x : Template}

theorem within_containment {expected : String} (hx : x.Within lo hi) (h : lo ≤ n ∧ n < hi) :
    (containment x n expected).Within lo hi := by
  simp [containment, hx, h]

theorem within_containments {expected : String} {count : Nat} (hx : x.Within lo hi) (hlo : lo ≤ n)
    (hhi : n + count ≤ hi) : ∀ t ∈ containments x expected n count, t.Within lo hi := by
  intro t ht
  obtain ⟨i, hi, rfl⟩ := List.mem_map.1 ht
  have := List.mem_range'_1.1 hi
  exact within_containment hx (by omega)

theorem within_slotsFrom {count : Nat} (hlo : lo ≤ n) (hhi : n + count ≤ hi) :
    ∀ t ∈ slotsFrom n count, t.Within lo hi := by
  intro t ht
  obtain ⟨i, hi, rfl⟩ := List.mem_map.1 ht
  have := List.mem_range'_1.1 hi
  simp
  omega

theorem within_distance (hx : x.Within lo hi) (h : lo ≤ n ∧ n < hi) :
    (distance x n).Within lo hi := by
  simp [distance, hx, h]

theorem within_relevance (hx : x.Within lo hi) (h : lo ≤ n ∧ n < hi) :
    (relevance x n).Within lo hi := by
  simp [relevance, hx, h]

theorem within_condition (t : Test) (hx : x.Within lo hi) (hlo : lo ≤ n)
    (hhi : n + t.params.length ≤ hi) : (t.condition x n).Within lo hi := by
  induction t with
  | always => simp [condition]
  | isNull => simp [condition, hx]
  | isPresent => simp [condition, hx]
  | scalar relation operand =>
    simp [params] at hhi
    simp [condition, hx]
    omega
  | among operands =>
    simp [params] at hhi
    simp [condition, hx, Template.within_join _ (within_slotsFrom hlo hhi)]
  | notAmong operands =>
    simp [params] at hhi
    simp [condition, hx, Template.within_join _ (within_slotsFrom hlo hhi)]
  | holds items =>
    simp [params] at hhi
    exact within_containment hx (by omega)
  | lacks items =>
    simp [params] at hhi
    exact within_containment hx (by omega)
  | holdsAny items =>
    simp [params] at hhi
    simp [condition, Template.within_join _ (within_containments hx hlo hhi)]
  | holdsNone items =>
    simp [params] at hhi
    simp [condition, Template.within_join _ (within_containments hx hlo hhi)]
  | atPoint wkt | notAtPoint wkt | regex pattern =>
    simp [params] at hhi
    simp [condition, hx]
    omega
  | text term =>
    simp [params] at hhi
    exact within_relevance hx (by omega)
  | near origin reach =>
    cases reach with
    | none => simp [condition, hx]
    | some meters =>
      simp [params] at hhi
      simp [condition, within_distance hx ⟨hlo, by omega⟩]
      omega
  | inBox corner opposite | inPolygon ring =>
    simp [params] at hhi
    simp [condition, hx]
    omega
  | orNull test ih | nullOr test ih | presentAnd test ih => simp [condition, hx, ih hhi]

theorem within_sort? {t : Test} {order : Template} (h : t.sort? x n = some order)
    (hx : x.Within lo hi) (hlo : lo ≤ n) (hhi : n + t.params.length ≤ hi) :
    order.Within lo hi := by
  unfold sort? at h
  split at h
  · cases h
    simp [params] at hhi
    simp [within_distance hx ⟨hlo, by omega⟩]
  · cases h

theorem within_score? {t : Test} {score : Template} (h : t.score? x n = some score)
    (hx : x.Within lo hi) (hlo : lo ≤ n) (hhi : n + t.params.length ≤ hi) :
    score.Within lo hi := by
  unfold score? at h
  split at h
  · cases h
    simp [params] at hhi
    exact within_relevance hx (by omega)
  · cases h

/-- The numbers that tests are given leave room for their parameters. -/
theorem bounds_of_mem_numbered {tests : List Test} {e : Nat × Test} (h : e ∈ numbered n tests) :
    n ≤ e.1 ∧ e.1 + e.2.params.length ≤ n + (tests.flatMap params).length := by
  induction tests generalizing n with
  | nil => simp [numbered] at h
  | cons t rest ih =>
    simp only [List.flatMap_cons, List.length_append]
    rcases List.mem_cons.1 h with rfl | h
    · simp
    · -- the tests behind the first begin behind its parameters
      have := ih h
      omega

end Test

namespace WhereClause

/-- All templates number the condition's own parameters. -/
structure Scoped (w : WhereClause) : Prop where
  pattern : w.pattern.Within 1 (w.params.length + 1)
  sorts : ∀ t ∈ w.sorts, t.Within 1 (w.params.length + 1)
  score : ∀ t ∈ w.score, t.Within 1 (w.params.length + 1)

theorem scoped_none : none.Scoped := by
  constructor <;> simp [none]

theorem scoped_ofTests (x : Target) (tests : List Test) : (ofTests x tests).Scoped := by
  have hlength : (ofTests x tests).params.length =
      x.params.length + (tests.flatMap Test.params).length := List.length_append
  have hx : (x.text 1).Within 1 ((ofTests x tests).params.length + 1) :=
    x.within_text (by omega) (by omega)
  have hnumber : ∀ e ∈ Test.numbered (x.params.length + 1) tests,
      1 ≤ e.1 ∧ e.1 + e.2.params.length ≤ (ofTests x tests).params.length + 1 := by
    intro e he
    have := Test.bounds_of_mem_numbered he
    omega
  constructor
  · refine Template.within_join _ fun t ht => ?_
    obtain ⟨e, he, rfl⟩ := List.mem_map.1 ht
    exact e.2.within_condition hx (hnumber e he).1 (hnumber e he).2
  · intro t ht
    obtain ⟨e, he, ht⟩ := List.mem_filterMap.1 ht
    exact Test.within_sort? ht hx (hnumber e he).1 (hnumber e he).2
  · intro t ht
    obtain ⟨e, he, ht⟩ := List.exists_of_findSome?_eq_some ht
    exact Test.within_score? ht hx (hnumber e he).1 (hnumber e he).2

theorem Scoped.beside {a b : WhereClause} (ha : a.Scoped) (hb : b.Scoped) (separator : String) :
    (a.beside separator b).Scoped := by
  have hlength : (a.beside separator b).params.length = a.params.length + b.params.length :=
    List.length_append
  have hleft : ∀ {t : Template}, t.Within 1 (a.params.length + 1) →
      t.Within 1 ((a.beside separator b).params.length + 1) :=
    fun h => h.mono (by omega) (by omega)
  have hright : ∀ {t : Template}, t.Within 1 (b.params.length + 1) →
      (t.shift a.params.length).Within 1 ((a.beside separator b).params.length + 1) :=
    fun h => (h.shift _).mono (by omega) (by omega)
  constructor
  · rw [show (a.beside separator b).pattern =
      sql [a.pattern, separator, b.pattern.shift a.params.length] from rfl]
    simp [hleft ha.pattern, hright hb.pattern]
  · intro t ht
    rcases List.mem_append.1 ht with ht | ht
    · exact hleft (ha.sorts t ht)
    · obtain ⟨u, hu, rfl⟩ := List.mem_map.1 ht
      exact hright (hb.sorts u hu)
  · -- the relevance is that of the left condition, or else that of the right one
    intro t ht
    change t ∈ (a.score <|> b.score.map _) at ht
    cases hscore : a.score with
    | some s =>
      rw [hscore] at ht
      exact hleft (ha.score t (by rw [hscore]; exact ht))
    | none =>
      rw [hscore] at ht
      obtain ⟨u, hu, rfl⟩ := Option.map_eq_some_iff.1 ht
      exact hright (hb.score u hu)

theorem Scoped.parenthesized {w : WhereClause} (h : w.Scoped) : w.parenthesized.Scoped where
  pattern := by
    rw [show w.parenthesized.pattern = sql ["(", w.pattern, ")"] from rfl]
    simpa [WhereClause.parenthesized] using h.pattern
  sorts := h.sorts
  score := h.score

theorem Scoped.condition {w : WhereClause} (h : w.Scoped) :
    w.condition.Within 1 (w.params.length + 1) := by
  unfold WhereClause.condition
  split
  · simp
  · exact h.pattern

@[simp] theorem params_shift (w : WhereClause) (k : Nat) : (w.shift k).params = w.params := rfl

@[simp] theorem shift_zero (w : WhereClause) : w.shift 0 = w := by
  have hid : Template.shift 0 = id := funext Template.shift_zero
  simp [shift, hid]

theorem condition_shift (w : WhereClause) (k : Nat) :
    (w.shift k).condition = w.condition.shift k := by
  unfold WhereClause.condition shift
  cases w.pattern with
  | nil => rfl
  | cons p rest => rfl

/-- The condition behind `k` parameters numbers the parameters behind these. -/
theorem Scoped.condition_shift {w : WhereClause} (h : w.Scoped) (k : Nat) :
    (w.shift k).condition.Within (1 + k) (w.params.length + 1 + k) := by
  rw [WhereClause.condition_shift]
  exact h.condition.shift k

theorem Scoped.spelled {w : WhereClause} (h : w.Scoped) : w.spelled.Scoped where
  pattern := h.condition
  sorts := h.sorts
  score := h.score

end WhereClause

/-! ### Filters -/

/-- A property of conditions that tests have and that is kept as conditions are put together. -/
structure WhereClause.IsKept (P : WhereClause → Prop) : Prop where
  none : P .none
  ofTests : ∀ x tests, P (.ofTests x tests)
  beside : ∀ (connective : Connective) (a b : WhereClause), P a → P b →
    P (a.beside (" " ++ connective.symbol ++ " ") b)
  parenthesized : ∀ w, P w → P w.parenthesized
  spelled : ∀ w, P w → P w.spelled

namespace WhereClause.IsKept

variable {P : WhereClause → Prop} {ws : List WhereClause}

theorem join (h : IsKept P) (connective : Connective) (hws : ∀ w ∈ ws, P w) :
    P (.join (" " ++ connective.symbol ++ " ") ws) := by
  induction ws with
  | nil => exact h.none
  | cons w rest ih =>
    have hw := hws w List.mem_cons_self
    have hrest := ih fun u hu => hws u (List.mem_cons_of_mem _ hu)
    cases rest with
    | nil => exact hw
    | cons u rest => exact h.beside connective _ _ hw hrest

theorem join_and (h : IsKept P) (hws : ∀ w ∈ ws, P w) : P (.join " AND " ws) :=
  h.join .and hws

mutual

theorem clause (h : IsKept P) : (c : RowClause) → P c.whereClause
  | .tests x applied => by
    rw [RowClause.whereClause]
    exact h.ofTests x applied
  | .group connective filters => by
    rw [RowClause.whereClause]
    exact h.parenthesized _ (h.join connective (h.groupParts filters))

theorem clauseParts (h : IsKept P) : (cs : List RowClause) → ∀ w ∈ RowClause.clauseParts cs, P w
  | [] => by simp [RowClause.clauseParts]
  | c :: cs => by
    rw [RowClause.clauseParts]
    intro w hw
    rcases List.mem_cons.1 hw with rfl | hw
    · exact h.clause c
    · exact h.clauseParts cs w hw

theorem groupParts (h : IsKept P) :
    (fs : List (List RowClause)) → ∀ w ∈ RowClause.groupParts fs, P w
  | [] => by simp [RowClause.groupParts]
  | f :: fs => by
    rw [RowClause.groupParts]
    intro w hw
    rcases List.mem_cons.1 hw with rfl | hw
    · exact h.spelled _ (h.join_and (h.clauseParts f))
    · exact h.groupParts fs w hw

end

/-- What tests have and putting together keeps, the conditions of all filters have. -/
theorem whereClause (h : IsKept P) (f : Filter) : P f.whereClause := h.join_and (h.clauseParts f)

end WhereClause.IsKept

/-- **A filter's condition numbers its own parameters.** -/
theorem Filter.scoped_whereClause (f : Filter) : f.whereClause.Scoped := by
  have hkept : WhereClause.IsKept WhereClause.Scoped :=
    { none := WhereClause.scoped_none
      ofTests := WhereClause.scoped_ofTests
      beside := fun _ _ _ ha hb => ha.beside hb _
      parenthesized := fun _ h => h.parenthesized
      spelled := fun _ h => h.spelled }
  exact hkept.whereClause f

end DocStore
