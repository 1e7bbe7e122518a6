import DocStore.Proofs.Query.Scope
import DocStore.Update.Change

/-!
# Placeholders of assignments

The assignments of a change number its column and the parameters of its steps, and assignments of
several changes all of these in order (`SetClause.scoped_ofChanges`).
-/

namespace DocStore

open Sql

variable {lo hi n : Nat} {c : Template}

theorem Expression.within_text (e : Expression) (hlo : lo ≤ n) (hhi : n + e.params.length ≤ hi) :
    (e.text n).Within lo hi := by
  cases e with
  | null => simp [text]
  | value v | json v | point longitude latitude =>
    simp [params] at hhi
    simp [text]
    omega

namespace Step

theorem within_orObject (hc : c.Within lo hi) : (orObject c).Within lo hi := by
  simp [orObject, hc]

theorem within_orArray (hc : c.Within lo hi) : (orArray c).Within lo hi := by
  simp [orArray, hc]

theorem within_parentPairs {count : Nat} (hc : c.Within lo hi) (hlo : lo ≤ n)
    (hhi : n + count ≤ hi) : ∀ t ∈ parentPairs c n count, t.Within lo hi := by
  intro t ht
  obtain ⟨i, hi, rfl⟩ := List.mem_map.1 ht
  have := List.mem_range'_1.1 hi
  simp [hc]
  omega

/-- The numbers of pairs leave room for two parameters each. -/
theorem bounds_of_mem_pairNumbers {count i : Nat} (h : i ∈ pairNumbers n count) :
    n ≤ i ∧ i + 2 ≤ n + 2 * count := by
  obtain ⟨j, hj, rfl⟩ := List.mem_map.1 h
  have := List.mem_range.1 hj
  omega

theorem within_setText {pairs : List Template} (hc : c.Within lo hi)
    (h : ∀ t ∈ pairs, t.Within lo hi) : (setText c pairs).Within lo hi := by
  simp [setText, within_orObject hc, Template.within_join _ h]

theorem within_providersText {entries : List (String × Option Json)} (hc : c.Within lo hi)
    (hlo : lo ≤ n) (hhi : n + (entries.flatMap providerParams).length ≤ hi) :
    (providersText c n entries).Within lo hi := by
  induction entries generalizing c n with
  | nil => exact hc
  | cons e rest ih =>
    obtain ⟨name, value⟩ := e
    -- each provider is set in what the ones before it made of the column
    rw [List.flatMap_cons, List.length_append] at hhi
    cases value with
    | none =>
      have hlength : (providerParams (name, none)).length = 1 := rfl
      refine ih ?_ (by omega) (by omega)
      simp [within_orObject hc]
      omega
    | some v =>
      have hlength : (providerParams (name, some v)).length = 2 := rfl
      refine ih ?_ (by omega) (by omega)
      simp [within_orObject hc]
      omega

theorem within_text (s : Step) (hc : c.Within lo hi) (hlo : lo ≤ n)
    (hhi : n + s.params.length ≤ hi) : (s.text c n).Within lo hi := by
  cases s with
  | put e => exact e.within_text hlo hhi
  | increment amount | remove items =>
    simp [params] at hhi
    simp [text, hc, within_orArray hc]
    omega
  | append items =>
    rw [params, List.length_map] at hhi
    rw [text]
    split
    · exact within_orArray hc
    · have hitems : Template.Within lo hi ((slotsFrom n items.length).map fun s =>
          sql [", '$', CAST(", s, " AS JSON)"]).flatten := by
        refine Template.within_sql.2 fun t ht => ?_
        obtain ⟨u, hu, rfl⟩ := List.mem_map.1 ht
        simp [Test.within_slotsFrom hlo hhi u hu]
      simp [within_orArray hc, hitems]
  | appendUnique item =>
    simp [params] at hhi
    simp [text, hc, within_orArray hc]
    omega
  | removeMembers paths =>
    rw [params, List.length_map] at hhi
    simp [text, within_orObject hc, Template.within_join _ (Test.within_slotsFrom hlo hhi)]
  | addMembers amounts =>
    simp [params, List.length_flatMap, List.map_const'] at hhi
    refine within_setText hc fun t ht => ?_
    rcases List.mem_append.1 ht with ht | ht
    · exact within_parentPairs hc hlo (by omega) t ht
    · obtain ⟨i, hi, rfl⟩ := List.mem_map.1 ht
      have := bounds_of_mem_pairNumbers hi
      simp [hc]
      omega
  | setMembers values =>
    simp [params, List.length_flatMap, List.map_const'] at hhi
    refine within_setText hc fun t ht => ?_
    rcases List.mem_append.1 ht with ht | ht
    · exact within_parentPairs hc hlo (by omega) t ht
    · obtain ⟨i, hi, rfl⟩ := List.mem_map.1 ht
      have := bounds_of_mem_pairNumbers hi
      simp
      omega
  | setProviders entries => exact within_providersText hc hlo hhi

theorem within_assignments {steps : List Step} (hc : c.Within lo hi) (hlo : lo ≤ n)
    (hhi : n + (steps.flatMap params).length ≤ hi) :
    ∀ t ∈ assignments c n steps, t.Within lo hi := by
  induction steps generalizing n with
  | nil => simp [assignments]
  | cons s rest ih =>
    rw [List.flatMap_cons, List.length_append] at hhi
    intro t ht
    rcases List.mem_cons.1 ht with rfl | ht
    · simp [hc, s.within_text hc hlo (by omega : n + s.params.length ≤ hi)]
    · exact ih (by omega) (by omega) t ht

end Step

namespace SetClause

/-- All assignments number the clause's own parameters. -/
def Scoped (s : SetClause) : Prop := ∀ t ∈ s.assignments, t.Within 1 (s.params.length + 1)

@[simp] theorem params_shift (s : SetClause) (k : Nat) : (s.shift k).params = s.params := rfl

@[simp] theorem shift_zero (s : SetClause) : s.shift 0 = s := by
  have hid : Template.shift 0 = id := funext Template.shift_zero
  simp [shift, hid]

theorem scoped_ofChange (change : Change) : (ofChange change).Scoped := by
  have hlength : (ofChange change).params.length = (change.steps.flatMap Step.params).length + 1 :=
    rfl
  refine Step.within_assignments ?_ (by omega) (by omega)
  simp
  omega

/-- **The assignments of changes number their own parameters.** -/
theorem scoped_ofChanges (changes : List Change) : (ofChanges changes).Scoped := by
  induction changes with
  | nil => simp [ofChanges, Scoped]
  | cons change rest ih =>
    have hlength : (ofChanges (change :: rest)).params.length =
        (ofChange change).params.length + (ofChanges rest).params.length := List.length_append
    intro t ht
    rcases List.mem_append.1 ht with ht | ht
    · exact (scoped_ofChange change t ht).mono (by omega) (by omega)
    · obtain ⟨u, hu, rfl⟩ := List.mem_map.1 ht
      exact ((ih u hu).shift _).mono (by omega) (by omega)

end SetClause

end DocStore
