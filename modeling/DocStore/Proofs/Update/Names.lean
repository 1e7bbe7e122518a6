import DocStore.Proofs.Query.Predicates
import DocStore.Update.Change

/-!
# Names in assignments

The texts of an assignment hold no names, so every name in it is that of a parameter
(`Step.nameless_text`, `Template.Nameless.exists_of_mem`).
-/

namespace DocStore

open Sql

namespace Sql

/-- The name that a token is. -/
def Token.name? : Token → Option String
  | ⟨.name content, _⟩ => some content
  | _ => none

/-- The names among tokens. -/
def Token.names (ts : List Token) : List String := ts.filterMap name?

namespace Template

/-- No text of the template holds a name. -/
def Nameless (t : Template) : Prop := Fits (.ofTokens fun token => token.name?.isNone) () t

/-- A name in a template without names is that of a placeholder. -/
theorem Nameless.exists_of_mem {t : Template} {g : Nat → Token} (h : t.Nameless) {name : String}
    (hname : name ∈ Token.names (t.solidTokens g)) : ∃ n, (g n).name? = some name := by
  obtain ⟨token, htoken, heq⟩ := List.mem_filterMap.1 hname
  rcases h.mem_solidTokens htoken with hnone | ⟨n, rfl⟩
  · rw [heq] at hnone
    cases hnone
  · exact ⟨n, heq⟩

end Template

/-- Only a parameter that is a name is read as one. -/
theorem Param.eq_ident_of_name? {p : Param} {name : String} (h : p.token.name? = some name) :
    p = .ident name := by
  cases p with
  | ident other =>
    cases h
    rfl
  | json v | raw fragment => cases h
  | value v =>
    cases v with
    | num n =>
      rw [token, kind?] at h
      split at h <;> cases h
    | null | bool b | str s | arr items | obj entries => cases h

end Sql

open Template (Nameless)

variable {n : Nat} {c : Template}

theorem Expression.nameless_text (e : Expression) : (e.text n).Nameless := by
  cases e with
  | null => exact ⟨rfl, trivial⟩
  | value v => trivial
  | json v => exact .text rfl (.slot rfl (.text rfl .nil))
  | point longitude latitude => exact .text rfl (.slot rfl (.text rfl (.slot rfl (.text rfl .nil))))

namespace Step

theorem nameless_orObject (hc : c.Nameless) : (orObject c).Nameless :=
  .text rfl (.part hc rfl (.text rfl .nil))

theorem nameless_orArray (hc : c.Nameless) : (orArray c).Nameless :=
  .text rfl (.part hc rfl (.text rfl .nil))

theorem nameless_parentPairs (hc : c.Nameless) (count : Nat) :
    ∀ t ∈ parentPairs c n count, t.Nameless := by
  intro t ht
  obtain ⟨i, -, rfl⟩ := List.mem_map.1 ht
  exact .slot rfl (.text rfl (.part hc rfl (.text rfl (.slot rfl (.text rfl .nil)))))

theorem nameless_setText (hc : c.Nameless) {pairs : List Template}
    (h : ∀ t ∈ pairs, t.Nameless) : (setText c pairs).Nameless :=
  .text rfl (.part (nameless_orObject hc) rfl (.text rfl (.part (.join rfl rfl h) rfl
    (.text rfl .nil))))

theorem nameless_providersText (hc : c.Nameless) (entries : List (String × Option Json)) :
    (providersText c n entries).Nameless := by
  induction entries generalizing c n with
  | nil => exact hc
  | cons e rest ih =>
    obtain ⟨name, value⟩ := e
    cases value with
    | none =>
      exact ih (.text rfl (.part (nameless_orObject hc) rfl (.text rfl (.slot rfl
        (.text rfl .nil)))))
    | some v =>
      exact ih (.text rfl (.part (nameless_orObject hc) rfl (.text rfl (.slot rfl (.text rfl
        (.slot rfl (.text rfl .nil)))))))

/-- **The texts of an assignment hold no names.** -/
theorem nameless_text (hc : c.Nameless) (s : Step) : (s.text c n).Nameless := by
  cases s with
  | put e => exact e.nameless_text
  | increment amount => exact .text rfl (.part hc rfl (.text rfl (.slot rfl .nil)))
  | append items =>
    rw [text]
    split
    · exact nameless_orArray hc
    · have hitems : Nameless ((slotsFrom n items.length).map fun s =>
          sql [", '$', CAST(", s, " AS JSON)"]).flatten := by
        refine .flatten fun t ht => ?_
        obtain ⟨u, hu, rfl⟩ := List.mem_map.1 ht
        exact .text rfl (.part (.slotsFrom rfl _ u hu) rfl (.text rfl .nil))
      exact .text rfl (.part (nameless_orArray hc) rfl (.apart hitems (.text rfl .nil)))
  | appendUnique item =>
    exact .text rfl (.part (nameless_orArray hc) rfl (.text rfl (.slot rfl (.text rfl
      (.part (nameless_orArray hc) rfl (.text rfl (.slot rfl (.text rfl (.part hc rfl
      (.text rfl .nil))))))))))
  | remove items =>
    -- the texts are long, so they are left to the kernel
    exact .text (by decide +kernel) (.part (nameless_orArray hc) rfl (.text (by decide +kernel)
      (.slot rfl (.text rfl .nil))))
  | removeMembers paths =>
    exact .text rfl (.part (nameless_orObject hc) rfl (.text rfl (.part
      (.join rfl rfl (.slotsFrom rfl _)) rfl (.text rfl .nil))))
  | addMembers amounts =>
    refine nameless_setText hc fun t ht => ?_
    rcases List.mem_append.1 ht with ht | ht
    · exact nameless_parentPairs hc _ t ht
    · obtain ⟨i, -, rfl⟩ := List.mem_map.1 ht
      exact .slot rfl (.text rfl (.part hc rfl (.text rfl (.slot rfl (.text rfl
        (.slot rfl .nil))))))
  | setMembers values =>
    refine nameless_setText hc fun t ht => ?_
    rcases List.mem_append.1 ht with ht | ht
    · exact nameless_parentPairs hc _ t ht
    · obtain ⟨i, -, rfl⟩ := List.mem_map.1 ht
      exact .slot rfl (.text rfl (.slot rfl (.text rfl .nil)))
  | setProviders entries => exact nameless_providersText hc entries

end Step

end DocStore
