import DocStore.Proofs.Query.Clear
import DocStore.Update.Change

/-!
# Assignments keep their parameters apart

Every assignment is clear, and none of its parameters is a raw fragment
(`SetClause.clear_ofChanges`).
-/

namespace DocStore

open Sql

open Template (Clear)

variable {n : Nat} {c : Template}

theorem Expression.clear_text (e : Expression) : Clear true (e.text n) := by
  cases e with
  | null => exact ⟨by decide, trivial⟩
  | value v => exact ⟨rfl, trivial⟩
  | json v => exact .text rfl (.slot rfl (.text rfl .nil))
  | point longitude latitude =>
    exact .text rfl (.slot rfl (.text rfl (.slot rfl (.text rfl .nil))))

theorem Expression.allTokens_params (e : Expression) : Param.AllTokens e.params := by
  cases e <;> simp [params]

namespace Step

theorem clear_orObject (hc : Clear true c) : Clear true (orObject c) :=
  .text rfl (.part hc rfl (.text rfl .nil))

theorem clear_orArray (hc : Clear true c) : Clear true (orArray c) :=
  .text rfl (.part hc rfl (.text rfl .nil))

theorem clear_parentPairs (hc : Clear true c) (count : Nat) :
    ∀ t ∈ parentPairs c n count, Clear true t := by
  intro t ht
  obtain ⟨i, -, rfl⟩ := List.mem_map.1 ht
  exact .slot rfl (.text rfl (.part hc rfl (.text rfl (.slot rfl (.text rfl .nil)))))

theorem clear_setText (hc : Clear true c) {pairs : List Template}
    (h : ∀ t ∈ pairs, Clear true t) : Clear true (setText c pairs) :=
  .text rfl (.part (clear_orObject hc) rfl (.text rfl (.part (.join rfl rfl h) rfl
    (.text rfl .nil))))

theorem clear_providersText (hc : Clear true c) (entries : List (String × Option Json)) :
    Clear true (providersText c n entries) := by
  induction entries generalizing c n with
  | nil => exact hc
  | cons e rest ih =>
    obtain ⟨name, value⟩ := e
    cases value with
    | none =>
      exact ih (.text rfl (.part (clear_orObject hc) rfl (.text rfl (.slot rfl
        (.text rfl .nil)))))
    | some v =>
      exact ih (.text rfl (.part (clear_orObject hc) rfl (.text rfl (.slot rfl (.text rfl
        (.slot rfl (.text rfl .nil)))))))

theorem clear_text (hc : Clear true c) (s : Step) : Clear true (s.text c n) := by
  cases s with
  | put e => exact e.clear_text
  | increment amount =>
    exact .text rfl (.part hc rfl (.text rfl (.slot rfl .nil)))
  | append items =>
    rw [text]
    split
    · exact clear_orArray hc
    · -- every item begins with a comma, so it may stand right behind the one before it
      have hitems : Clear false ((slotsFrom n items.length).map fun s =>
          sql [", '$', CAST(", s, " AS JSON)"]).flatten := by
        refine .flatten fun t ht => ?_
        obtain ⟨u, hu, rfl⟩ := List.mem_map.1 ht
        exact .text rfl (.part (.slotsFrom rfl _ u hu) rfl (.text rfl .nil))
      exact .text rfl (.part (clear_orArray hc) rfl (.apart hitems (.text rfl .nil)))
  | appendUnique item =>
    exact .text rfl (.part (clear_orArray hc) rfl (.text rfl (.slot rfl (.text rfl
      (.part (clear_orArray hc) rfl (.text rfl (.slot rfl (.text rfl (.part hc rfl
      (.text rfl .nil))))))))))
  | remove items =>
    -- the texts are long, so they are left to the kernel
    exact .text (by decide +kernel) (.part (clear_orArray hc) (by decide +kernel)
      (.text (by decide +kernel) (.slot (by decide +kernel) (.text rfl .nil))))
  | removeMembers paths =>
    exact .text rfl (.part (clear_orObject hc) rfl (.text rfl (.part
      (.join rfl rfl (.slotsFrom rfl _)) rfl (.text rfl .nil))))
  | addMembers amounts =>
    refine clear_setText hc fun t ht => ?_
    rcases List.mem_append.1 ht with ht | ht
    · exact clear_parentPairs hc _ t ht
    · obtain ⟨i, -, rfl⟩ := List.mem_map.1 ht
      exact .slot rfl (.text rfl (.part hc rfl (.text rfl (.slot rfl (.text rfl
        (.slot rfl .nil))))))
  | setMembers values =>
    refine clear_setText hc fun t ht => ?_
    rcases List.mem_append.1 ht with ht | ht
    · exact clear_parentPairs hc _ t ht
    · obtain ⟨i, -, rfl⟩ := List.mem_map.1 ht
      exact .slot rfl (.text rfl (.slot rfl (.text rfl .nil)))
  | setProviders entries => exact clear_providersText hc entries

theorem allTokens_params (s : Step) : Param.AllTokens s.params := by
  have hpaths : ∀ paths : List (List String), Param.AllTokens (paths.map pathParam) :=
    Param.allTokens_map fun path => by simp [pathParam]
  cases s with
  | put e => exact e.allTokens_params
  | increment amount => simp [params]
  | append items => exact Param.allTokens_map (by simp) items
  | appendUnique item => simp [params]
  | remove items => simp [params]
  | removeMembers paths => exact hpaths paths
  | addMembers amounts =>
    exact Param.allTokens_append.2
      ⟨hpaths _, Param.allTokens_flatMap fun e _ => by simp [pathParam]⟩
  | setMembers values =>
    exact Param.allTokens_append.2
      ⟨hpaths _, Param.allTokens_flatMap fun e _ => by simp [pathParam]⟩
  | setProviders entries =>
    refine Param.allTokens_flatMap fun e _ => ?_
    obtain ⟨name, value⟩ := e
    cases value <;> simp [providerParams, pathParam]

theorem clear_assignments (hc : Clear true c) (steps : List Step) :
    ∀ t ∈ assignments c n steps, Clear true t := by
  induction steps generalizing n with
  | nil => simp [assignments]
  | cons s rest ih =>
    intro t ht
    rcases List.mem_cons.1 ht with rfl | ht
    · exact .part hc rfl (.text rfl (.part (s.clear_text hc) rfl .nil))
    · exact ih t ht

end Step

namespace SetClause

/-- All assignments are clear, and their parameters are tokens. -/
structure Clear (s : SetClause) : Prop where
  assignments : ∀ t ∈ s.assignments, Template.Clear true t
  params : Param.AllTokens s.params

theorem Clear.shift {s : SetClause} (h : s.Clear) (k : Nat) : (s.shift k).Clear where
  assignments := by
    intro t ht
    obtain ⟨u, hu, rfl⟩ := List.mem_map.1 ht
    exact (h.assignments u hu).shift k
  params := h.params

theorem clear_ofChange (change : Change) : (ofChange change).Clear where
  assignments :=
    have hcolumn : Template.Clear true (.slot 1) := ⟨rfl, trivial⟩
    Step.clear_assignments hcolumn change.steps
  params := by
    have := Param.allTokens_flatMap (f := Step.params) fun s (_ : s ∈ change.steps) =>
      s.allTokens_params
    simp [ofChange, this]

/-- **The assignments of changes keep their parameters apart.** -/
theorem clear_ofChanges (changes : List Change) : (ofChanges changes).Clear := by
  induction changes with
  | nil => constructor <;> simp [ofChanges]
  | cons change rest ih =>
    constructor
    · intro t ht
      rcases List.mem_append.1 ht with ht | ht
      · exact (clear_ofChange change).assignments t ht
      · exact (ih.shift _).assignments t ht
    · exact Param.allTokens_append.2 ⟨(clear_ofChange change).params, ih.params⟩

end SetClause

end DocStore
