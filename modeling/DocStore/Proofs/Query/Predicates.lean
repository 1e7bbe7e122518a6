import DocStore.Proofs.Query.Operands
import DocStore.Proofs.Sql.Predicates

/-!
# What a test says about a row

The tests that compare a column with values are conditions that can be read back as predicates.
`Test.truth` says what such a test means, without its text, and `Test.reads_condition` that its text
means the same, whatever the row.
-/

namespace DocStore

open Sql

namespace Sql.Param

/-- The token of a parameter. -/
def token (p : Param) : Token := ⟨p.kind?.getD .word, p.render⟩

/-- The token of parameter `n` of a list, counted from one. -/
def tokenAt (params : List Param) (n : Nat) : Token :=
  ((params[n - 1]?).map token).getD ⟨.word, "NULL"⟩

variable {p : Param} {params : List Param}

theorem tokens?_token (h : p.kind?.isSome = true) : tokens? p.token.source = some [p.token] := by
  obtain ⟨kind, hkind⟩ := Option.isSome_iff_exists.1 h
  have htoken : p.token = ⟨kind, p.render⟩ := by rw [token, hkind, Option.getD_some]
  rw [htoken]
  exact tokens?_render hkind

theorem kind?_ne_mark (p : Param) : p.kind? ≠ some .mark := by
  intro h
  cases p with
  | ident name | json v | raw fragment => cases h
  | value v =>
    cases v with
    | null | bool b | str s | arr items | obj entries => cases h
    | num n =>
      rw [kind?] at h
      split at h <;> cases h

/-- The words that stand for parameters are no keywords of a condition. -/
theorem mem_words_of_kind? (h : p.kind? = some .word) :
    p.render ∈ ["NULL", "TRUE", "FALSE", "null"] := by
  cases p with
  | ident name => cases h
  | json v => cases h
  | raw fragment => cases h
  | value v =>
    cases v with
    | null => simp [render, literal]
    | bool b => cases b <;> simp [render, literal]
    | str s => cases h
    | arr items => cases h
    | obj entries => cases h
    | num n =>
      cases n with
      | int value => cases h
      | float x =>
        have hx : ¬ x.isFinite = true := by
          intro hfinite
          simp [kind?, Number.isFinite, hfinite] at h
        simp [render, literal, Number.text, hx]

theorem part_token (h : p.kind?.isSome = true) : p.token.part = .operand := by
  obtain ⟨kind, hkind⟩ := Option.isSome_iff_exists.1 h
  have htoken : p.token = ⟨kind, p.render⟩ := by rw [token, hkind, Option.getD_some]
  rw [htoken]
  cases kind with
  | word =>
    have hwords := mem_words_of_kind? hkind
    simp only [List.mem_cons, List.not_mem_nil, or_false] at hwords
    rcases hwords with hword | hword | hword | hword <;> rw [hword] <;> decide
  | name content => simp [Token.part]
  | string content => simp [Token.part]
  | number => simp [Token.part]
  | mark => exact absurd hkind (kind?_ne_mark p)

theorem tokenAt_cases (params : List Param) (n : Nat) :
    tokenAt params n = ⟨.word, "NULL"⟩ ∨ ∃ p ∈ params, tokenAt params n = p.token := by
  unfold tokenAt
  cases h : params[n - 1]? with
  | none => exact .inl rfl
  | some p => exact .inr ⟨p, List.mem_of_getElem? h, rfl⟩

theorem operands_tokenAt (h : AllTokens params) : Operands (tokenAt params) := by
  intro n
  rcases tokenAt_cases params n with htoken | ⟨p, hp, htoken⟩
  · rw [htoken]
    decide
  · rw [htoken]
    exact part_token (h p hp)

theorem tokens?_tokenAt (h : AllTokens params) (n : Nat) :
    tokens? (tokenAt params n).source = some [tokenAt params n] := by
  rcases tokenAt_cases params n with htoken | ⟨p, hp, htoken⟩
  · rw [htoken]
    decide
  · rw [htoken]
    exact tokens?_token (h p hp)

theorem tokenAt_ne_blank (h : AllTokens params) (n : Nat) : tokenAt params n ≠ ⟨.mark, " "⟩ := by
  rcases tokenAt_cases params n with htoken | ⟨p, hp, htoken⟩
  · rw [htoken]
    decide
  · obtain ⟨kind, hkind⟩ := Option.isSome_iff_exists.1 (h p hp)
    intro hblank
    have hmark : kind = .mark := by
      simpa [token, hkind] using congrArg Token.kind (htoken.symm.trans hblank)
    exact kind?_ne_mark p (hmark ▸ hkind)

/-- The parameters behind others are numbered on. -/
theorem map_tokenAt (front params : List Param) :
    (List.range' (front.length + 1) params.length).map (tokenAt (front ++ params)) =
      params.map token := by
  refine List.ext_getElem (by simp) fun i hi hi' => ?_
  have hlt : i < params.length := by simpa using hi
  have hbehind : front.length + 1 + i - 1 = front.length + i := by omega
  simp [tokenAt, hbehind, hlt]

theorem textAt_eq_tokenAt {n : Nat} (h1 : 1 ≤ n) (h2 : n < params.length + 1) :
    textAt params n = (tokenAt params n).source := by
  have hlt : n - 1 < params.length := by omega
  simp [textAt, tokenAt, token, hlt]

end Sql.Param

namespace Test

/-- Tests that compare a column with values, of which there are some. -/
def Compares : Test → Prop
  | .always | .isNull | .isPresent | .scalar .equal _ | .scalar .different _ | .holds _ | .lacks _
  | .atPoint _ | .notAtPoint _ => True
  | .among operands | .notAmong operands => operands ≠ []
  | .holdsAny items | .holdsNone items => items ≠ []
  | .orNull test | .nullOr test | .presentAnd test => Compares test
  | _ => False

variable (φ : Facts) (x : List Token)

/-- What a test says about the column `x` of a row. -/
def truth : Test → Truth
  | .always => .yes
  | .isNull => φ.holds (.isNull x)
  | .isPresent => φ.holds (.isPresent x)
  | .scalar .equal operand => φ.holds (.equal x (Param.value operand).token)
  | .scalar .different operand => φ.holds (.different x (Param.value operand).token)
  | .among operands => φ.holds (.among x (operands.map fun v => (Param.value v).token))
  | .notAmong operands => φ.holds (.notAmong x (operands.map fun v => (Param.value v).token))
  | .holds items => φ.holds (.contains x (Param.json (.arr items)).token)
  | .lacks items => φ.holds (.lacks x (Param.json (.arr items)).token)
  | .holdsAny items => φ.judge x (items.any fun v => φ.contains x (Param.json (.arr [v])).token)
  | .holdsNone items =>
    φ.judge x (!items.any fun v => φ.contains x (Param.json (.arr [v])).token)
  | .atPoint wkt => φ.holds (.isAt x (Param.text wkt).token)
  | .notAtPoint wkt => φ.holds (.isNotAt x (Param.text wkt).token)
  | .orNull test => (truth test).or (φ.holds (.isNull x))
  | .nullOr test => (φ.holds (.isNull x)).or (truth test)
  | .presentAnd test => (φ.holds (.isPresent x)).and (truth test)
  | _ => .unknown

/-- Tokens that are one operand of a condition, or one group, with this truth value. -/
def Reads (ts : List Token) (value : Truth) : Prop :=
  ∃ e, IsConjunction ts [e] ∧ e.value φ.truth = value

variable {φ x} {g : Nat → Token} {y : Template} {n : Nat}

theorem Reads.ne_nil {ts : List Token} {value : Truth} (h : Reads φ ts value) : ts ≠ [] := by
  rintro rfl
  obtain ⟨e, he, -⟩ := h
  obtain ⟨conjuncts, operand, e', hrun, he', -⟩ := he [] ⟨[], []⟩
  cases hrun
  cases he'

theorem reads_of_read? {t : Template} {p : Predicate} (hg : Operands g)
    (hcloses : Template.Closes none t) (hread : Predicate.read? (t.solidTokens g) = some p) :
    Reads φ (t.solidTokens g) (φ.holds p) := by
  refine ⟨_, isConjunction_of_runDepth (by rw [Template.runDepth_solidTokens hg]; exact hcloses), ?_⟩
  have hatom : t.solidTokens g ≠ [⟨.word, "TRUE"⟩] := by
    intro heq
    rw [heq] at hread
    have hnone : Predicate.read? [⟨.word, "TRUE"⟩] = none := by decide
    exact absurd (hnone.symm.trans hread) (by simp)
  rw [operandExpr, if_neg hatom, Expr.value, Facts.truth, hread]
  rfl

theorem solidTokens_slots (count : Nat) :
    (Template.join ", " (slotsFrom n count)).solidTokens g =
      Predicate.separated ((List.range' n count).map g) := by
  have hcomma : solid ", " = [⟨.mark, ","⟩] := by decide
  unfold slotsFrom
  induction count generalizing n with
  | zero => rfl
  | succ count ih =>
    cases count with
    | zero => rfl
    | succ count =>
      have hrest := ih (n := n + 1)
      rw [List.range'_succ, List.range'_succ, List.map_cons, List.map_cons,
        Template.solidTokens_join_cons, hcomma]
      rw [List.range'_succ, List.map_cons] at hrest
      rw [hrest]
      rfl

section Operands

variable (hg : Operands g) (hy : Template.Neutral y) (hx : y.solidTokens g = x)
  (hcolumn : IsColumn x)

include hg hy hx hcolumn

theorem reads_isNull : Reads φ ((sql [y, " IS NULL"]).solidTokens g) (φ.holds (.isNull x)) := by
  refine reads_of_read? hg (closes_isNull hy) ?_
  have htokens : solid " IS NULL" = [⟨.word, "IS"⟩, ⟨.word, "NULL"⟩] := by decide
  simpa [hx, htokens] using Predicate.read?_isNull hcolumn

theorem reads_isPresent :
    Reads φ ((sql [y, " IS NOT NULL"]).solidTokens g) (φ.holds (.isPresent x)) := by
  refine reads_of_read? hg (closes_isPresent hy) ?_
  have htokens : solid " IS NOT NULL" =
      [⟨.word, "IS"⟩, ⟨.word, "NOT"⟩, ⟨.word, "NULL"⟩] := by decide
  simpa [hx, htokens] using Predicate.read?_isPresent hcolumn

theorem reads_equal :
    Reads φ ((sql [y, " ", Relation.equal.symbol, " ", .slot n]).solidTokens g)
      (φ.holds (.equal x (g n))) := by
  refine reads_of_read? hg (closes_scalar hy .equal) ?_
  have hblank : solid " " = [] := by decide
  have hsymbol : solid "=" = [⟨.mark, "="⟩] := by decide
  simpa [hx, hblank, hsymbol, Relation.symbol, Template.slot, Template.solidTokens] using
    Predicate.read?_equal (v := g n) hcolumn

theorem reads_different :
    Reads φ ((sql [y, " ", Relation.different.symbol, " ", .slot n]).solidTokens g)
      (φ.holds (.different x (g n))) := by
  refine reads_of_read? hg (closes_scalar hy .different) ?_
  have hblank : solid " " = [] := by decide
  have hsymbol : solid "<>" = [⟨.mark, "<"⟩, ⟨.mark, ">"⟩] := by decide
  simpa [hx, hblank, hsymbol, Relation.symbol, Template.slot, Template.solidTokens] using
    Predicate.read?_different (v := g n) hcolumn

theorem reads_among {count : Nat} (hcount : count ≠ 0) :
    Reads φ ((sql [y, " IN (", .join ", " (slotsFrom n count), ")"]).solidTokens g)
      (φ.holds (.among x ((List.range' n count).map g))) := by
  refine reads_of_read? hg (closes_among hy _) ?_
  have hin : solid " IN (" = [⟨.word, "IN"⟩, ⟨.mark, "("⟩] := by decide
  have hclose : solid ")" = [⟨.mark, ")"⟩] := by decide
  have hne : (List.range' n count).map g ≠ [] := by simpa using hcount
  simpa [hx, hin, hclose, solidTokens_slots] using Predicate.read?_among hcolumn hne

theorem reads_notAmong {count : Nat} (hcount : count ≠ 0) :
    Reads φ ((sql [y, " NOT IN (", .join ", " (slotsFrom n count), ")"]).solidTokens g)
      (φ.holds (.notAmong x ((List.range' n count).map g))) := by
  refine reads_of_read? hg (closes_notAmong hy _) ?_
  have hin : solid " NOT IN (" = [⟨.word, "NOT"⟩, ⟨.word, "IN"⟩, ⟨.mark, "("⟩] := by decide
  have hclose : solid ")" = [⟨.mark, ")"⟩] := by decide
  have hne : (List.range' n count).map g ≠ [] := by simpa using hcount
  simpa [hx, hin, hclose, solidTokens_slots] using Predicate.read?_notAmong hcolumn hne

theorem reads_contains :
    Reads φ ((containment y n "1").solidTokens g) (φ.holds (.contains x (g n))) := by
  refine reads_of_read? hg (closes_containment hy (.inl rfl)) ?_
  have hopen : solid "JSON_CONTAINS(" = [⟨.word, "JSON_CONTAINS"⟩, ⟨.mark, "("⟩] := by decide
  have hcomma : solid ", " = [⟨.mark, ","⟩] := by decide
  have hclose : solid ") = " = [⟨.mark, ")"⟩, ⟨.mark, "="⟩] := by decide
  have hexpected : solid "1" = [⟨.number, "1"⟩] := by decide
  simpa [containment, hx, hopen, hcomma, hclose, hexpected, Template.slot, Template.solidTokens]
    using Predicate.read?_contains (v := g n) hcolumn

theorem reads_lacks :
    Reads φ ((containment y n "0").solidTokens g) (φ.holds (.lacks x (g n))) := by
  refine reads_of_read? hg (closes_containment hy (.inr rfl)) ?_
  have hopen : solid "JSON_CONTAINS(" = [⟨.word, "JSON_CONTAINS"⟩, ⟨.mark, "("⟩] := by decide
  have hcomma : solid ", " = [⟨.mark, ","⟩] := by decide
  have hclose : solid ") = " = [⟨.mark, ")"⟩, ⟨.mark, "="⟩] := by decide
  have hexpected : solid "0" = [⟨.number, "0"⟩] := by decide
  simpa [containment, hx, hopen, hcomma, hclose, hexpected, Template.slot, Template.solidTokens]
    using Predicate.read?_lacks (v := g n) hcolumn

theorem reads_isAt :
    Reads φ ((sql ["ST_Equals(", y, ", ST_GeomFromText(", .slot n, "))"]).solidTokens g)
      (φ.holds (.isAt x (g n))) := by
  refine reads_of_read? hg (closes_atPoint hy) ?_
  have hopen : solid "ST_Equals(" = [⟨.word, "ST_Equals"⟩, ⟨.mark, "("⟩] := by decide
  have hpoint : solid ", ST_GeomFromText(" =
      [⟨.mark, ","⟩, ⟨.word, "ST_GeomFromText"⟩, ⟨.mark, "("⟩] := by decide
  have hclose : solid "))" = [⟨.mark, ")"⟩, ⟨.mark, ")"⟩] := by decide
  simpa [hx, hopen, hpoint, hclose, Template.slot, Template.solidTokens] using
    Predicate.read?_isAt (v := g n) hcolumn

theorem reads_isNotAt :
    Reads φ ((sql ["NOT ST_Equals(", y, ", ST_GeomFromText(", .slot n, "))"]).solidTokens g)
      (φ.holds (.isNotAt x (g n))) := by
  refine reads_of_read? hg (closes_notAtPoint hy) ?_
  have hopen : solid "NOT ST_Equals(" =
      [⟨.word, "NOT"⟩, ⟨.word, "ST_Equals"⟩, ⟨.mark, "("⟩] := by decide
  have hpoint : solid ", ST_GeomFromText(" =
      [⟨.mark, ","⟩, ⟨.word, "ST_GeomFromText"⟩, ⟨.mark, "("⟩] := by decide
  have hclose : solid "))" = [⟨.mark, ")"⟩, ⟨.mark, ")"⟩] := by decide
  simpa [hx, hopen, hpoint, hclose, Template.slot, Template.solidTokens] using
    Predicate.read?_isNotAt (v := g n) hcolumn

end Operands

/-- Containments of items, each a judgement about the column. -/
theorem reads_containments (hg : Operands g) (hy : Template.Neutral y) (hx : y.solidTokens g = x)
    (hcolumn : IsColumn x) {items : List Json}
    (hslots : (List.range' n items.length).map g =
      items.map fun v => (Param.json (.arr [v])).token) {expected : String} (f : Bool → Bool)
    (hexpected : expected = "1" ∧ f = id ∨ expected = "0" ∧ f = not) :
    ∃ es : List (Expr (List Token)),
      List.Forall₂ (fun t ess => IsConjunction (Template.solidTokens g t) ess)
        (containments y expected n items.length) (es.map fun e => [e]) ∧
      List.Forall₂ (fun e b => e.value φ.truth = φ.judge x b) es
        (items.map fun v => f (φ.contains x (Param.json (.arr [v])).token)) := by
  induction items generalizing n with
  | nil => exact ⟨[], .nil, .nil⟩
  | cons v items ih =>
    rw [List.length_cons, List.range'_succ, List.map_cons, List.map_cons] at hslots
    obtain ⟨hfirst, hrest⟩ := List.cons.inj hslots
    obtain ⟨es, hes, hvalues⟩ := ih hrest
    have hreads : Reads φ ((containment y n expected).solidTokens g)
        (φ.judge x (f (φ.contains x (Param.json (.arr [v])).token))) := by
      rw [← hfirst]
      rcases hexpected with ⟨rfl, rfl⟩ | ⟨rfl, rfl⟩
      · exact reads_contains hg hy hx hcolumn
      · exact reads_lacks hg hy hx hcolumn
    obtain ⟨e, he, hvalue⟩ := hreads
    exact ⟨e :: es, .cons he hes, .cons hvalue hvalues⟩

theorem ne_nil_of_values {items : List Json} (hne : items ≠ []) {es : List (Expr (List Token))}
    {f : Json → Bool}
    (h : List.Forall₂ (fun e b => e.value φ.truth = φ.judge x b) es (items.map f)) : es ≠ [] := by
  rintro rfl
  cases items with
  | nil => exact hne rfl
  | cons v items => cases h

/-- **A test that compares a column has the truth value that it says.** -/
theorem reads_condition (hg : Operands g) (hy : Template.Neutral y) (hx : y.solidTokens g = x)
    (hcolumn : IsColumn x) {t : Test} (ht : t.Compares)
    (hslots : (List.range' n t.params.length).map g = t.params.map Param.token) :
    Reads φ ((t.condition y n).solidTokens g) (t.truth φ x) := by
  have hopen : solid "(" = [⟨.mark, "("⟩] := by decide
  have hclose : solid ")" = [⟨.mark, ")"⟩] := by decide
  induction t with
  | always =>
    refine ⟨.truth, ?_, rfl⟩
    have htrue : solid "TRUE" = [⟨.word, "TRUE"⟩] := by decide
    have hsingle : IsConjunction [⟨.word, "TRUE"⟩] [.truth] := isConjunction_of_runDepth rfl
    simpa [condition, htrue] using hsingle
  | isNull => exact reads_isNull hg hy hx hcolumn
  | isPresent => exact reads_isPresent hg hy hx hcolumn
  | scalar relation operand =>
    have hslot : g n = (Param.value operand).token := by simpa [params] using hslots
    cases relation with
    | equal =>
      rw [truth, ← hslot]
      exact reads_equal hg hy hx hcolumn
    | different =>
      rw [truth, ← hslot]
      exact reads_different hg hy hx hcolumn
    | ordered comparison => exact ht.elim
  | among operands =>
    have hslot : (List.range' n operands.length).map g =
        operands.map fun v => (Param.value v).token := by
      simpa [params, Function.comp_def] using hslots
    rw [truth, ← hslot]
    exact reads_among hg hy hx hcolumn fun hzero => ht (List.length_eq_zero_iff.mp hzero)
  | notAmong operands =>
    have hslot : (List.range' n operands.length).map g =
        operands.map fun v => (Param.value v).token := by
      simpa [params, Function.comp_def] using hslots
    rw [truth, ← hslot]
    exact reads_notAmong hg hy hx hcolumn fun hzero => ht (List.length_eq_zero_iff.mp hzero)
  | holds items =>
    have hslot : g n = (Param.json (.arr items)).token := by simpa [params] using hslots
    rw [truth, ← hslot]
    exact reads_contains hg hy hx hcolumn
  | lacks items =>
    have hslot : g n = (Param.json (.arr items)).token := by simpa [params] using hslots
    rw [truth, ← hslot]
    exact reads_lacks hg hy hx hcolumn
  | holdsAny items =>
    have hslot : (List.range' n items.length).map g =
        items.map fun v => (Param.json (.arr [v])).token := by
      simpa [params, Function.comp_def] using hslots
    obtain ⟨es, hes, hvalues⟩ :=
      reads_containments (φ := φ) hg hy hx hcolumn hslot id (.inl ⟨rfl, rfl⟩)
    refine ⟨_, Template.isConjunction_group
      (Template.isDisjunction_join rfl (containments_ne_nil ht) hes), ?_⟩
    have hsingle : (es.map fun e => [e]).map Expr.conj = es := by
      simp [Function.comp_def, Expr.conj]
    rw [hsingle, Facts.value_disj hvalues (ne_nil_of_values ht hvalues), truth, List.any_map]
    rfl
  | holdsNone items =>
    have hslot : (List.range' n items.length).map g =
        items.map fun v => (Param.json (.arr [v])).token := by
      simpa [params, Function.comp_def] using hslots
    obtain ⟨es, hes, hvalues⟩ :=
      reads_containments (φ := φ) hg hy hx hcolumn hslot not (.inr ⟨rfl, rfl⟩)
    refine ⟨_, Template.isConjunction_group
      (Template.isConjunction_join rfl (containments_ne_nil ht) hes).isDisjunction, ?_⟩
    have hflat : (es.map fun e => [e]).flatten = es := by
      simp [← List.flatMap_def]
    have hall : (Expr.disj [Expr.conj es]).value φ.truth = (Expr.conj es).value φ.truth := rfl
    rw [List.map_singleton, hflat, hall, Facts.value_conj hvalues (ne_nil_of_values ht hvalues),
      truth, List.all_map, List.not_any_eq_all_not]
    rfl
  | atPoint wkt =>
    have hslot : g n = (Param.text wkt).token := by simpa [params] using hslots
    rw [truth, ← hslot]
    exact reads_isAt hg hy hx hcolumn
  | notAtPoint wkt =>
    have hslot : g n = (Param.text wkt).token := by simpa [params] using hslots
    rw [truth, ← hslot]
    exact reads_isNotAt hg hy hx hcolumn
  | orNull test ih =>
    obtain ⟨e, he, hvalue⟩ := ih ht hslots
    obtain ⟨f, hf, hnull⟩ := reads_isNull (φ := φ) hg hy hx hcolumn
    refine ⟨.or e f, ?_, by rw [Expr.value, hvalue, hnull, truth]⟩
    -- the last parenthesis closes the group, not the operand
    have hsplit : solid " IS NULL)" = solid " IS NULL" ++ [⟨.mark, ")"⟩] := by decide
    have hor : solid " OR " = [orToken] := by decide
    have hgroup := (he.isDisjunction.append hf.isDisjunction).group
    simpa [condition, hopen, hor, hsplit, Expr.conj, Expr.disj] using hgroup
  | nullOr test ih =>
    obtain ⟨e, he, hvalue⟩ := ih ht hslots
    obtain ⟨f, hf, hnull⟩ := reads_isNull (φ := φ) hg hy hx hcolumn
    refine ⟨.or f e, ?_, by rw [Expr.value, hvalue, hnull, truth]⟩
    have hsplit : solid " IS NULL OR " = solid " IS NULL" ++ [orToken] := by decide
    have hgroup := (hf.isDisjunction.append he.isDisjunction).group
    simpa [condition, hopen, hclose, hsplit, Expr.conj, Expr.disj] using hgroup
  | presentAnd test ih =>
    obtain ⟨e, he, hvalue⟩ := ih ht hslots
    obtain ⟨f, hf, hpresent⟩ := reads_isPresent (φ := φ) hg hy hx hcolumn
    refine ⟨.and f e, ?_, by rw [Expr.value, hvalue, hpresent, truth]⟩
    have hsplit : solid " IS NOT NULL AND " = solid " IS NOT NULL" ++ [andToken] := by decide
    have hgroup := (hf.append he).isDisjunction.group
    simpa [condition, hopen, hclose, hsplit, Expr.conj, Expr.disj] using hgroup
  | regex pattern | text term | near origin reach | inBox corner opposite | inPolygon ring =>
    exact ht.elim

end Test

/-! ### Conditions with one test -/

namespace Target

/-- The tokens of a target. -/
def tokens (x : Target) : List Token :=
  (Param.ident x.column).token ::
    if x.isNested then
      [⟨.mark, "-"⟩, ⟨.mark, ">"⟩, ⟨.mark, ">"⟩, (Param.text (jsonPath x.path)).token]
    else []

variable (x : Target)

theorem isColumn_tokens : IsColumn x.tokens := by
  unfold tokens
  split
  · exact .inside _ _ _ _
  · exact .plain _ _

theorem solidTokens_text (more : List Param) :
    (x.text 1).solidTokens (Param.tokenAt (x.params ++ more)) = x.tokens := by
  have harrow : solid "->>" = [⟨.mark, "-"⟩, ⟨.mark, ">"⟩, ⟨.mark, ">"⟩] := by decide
  unfold text tokens params
  cases x.isNested with
  | true =>
    simp only [if_true, Template.solidTokens_sql_cons, Template.solidTokens_text, harrow]
    rfl
  | false => rfl

end Target

/-- The text of a filter's condition, rendered by itself. -/
def Filter.text (f : Filter) : String :=
  f.whereClause.condition.fill (Param.textAt f.whereClause.params)

/-- **A condition with one test that compares a column has the truth value that the test says.** -/
theorem Filter.truth?_text (φ : Facts) (x : Target) {t : Test} (ht : t.Compares) :
    φ.truth? (Filter.text [.tests x [t]]) = some (t.truth φ x.tokens) := by
  set w := Filter.whereClause [.tests x [t]] with hw
  have hwhere : w = .ofTests x [t] := by
    simp [hw, Filter.whereClause, RowClause.clauseParts, RowClause.whereClause, WhereClause.join]
  have hparams : w.params = x.params ++ t.params := by simp [hwhere, WhereClause.ofTests]
  have hpattern : w.pattern = t.condition (x.text 1) (x.params.length + 1) := by
    simp [hwhere, WhereClause.ofTests, Test.numbered, Template.join]
  -- the placeholders are written as the tokens of the parameters
  have htokens : Param.AllTokens w.params := (Filter.clear_whereClause _).params
  have htext : Filter.text [.tests x [t]] =
      w.condition.fill fun n => (Param.tokenAt w.params n).source :=
    Template.fill_congr (Filter.scoped_whereClause _).condition fun n h1 h2 =>
      Param.textAt_eq_tokenAt h1 h2
  have hsolid : solidTokens? (Filter.text [.tests x [t]]) =
      some (w.condition.solidTokens (Param.tokenAt w.params)) := by
    rw [htext]
    exact Template.solidTokens?_fill (Param.tokens?_tokenAt htokens)
      (Param.tokenAt_ne_blank htokens) (Filter.clear_whereClause _).condition
  have hreads : Test.Reads φ (w.pattern.solidTokens (Param.tokenAt w.params))
      (t.truth φ x.tokens) := by
    rw [hpattern]
    refine Test.reads_condition (Param.operands_tokenAt htokens) (x.neutral_text 1) ?_
      x.isColumn_tokens ht ?_
    · rw [hparams]
      exact x.solidTokens_text t.params
    · rw [hparams]
      exact Param.map_tokenAt x.params t.params
  have hne : w.pattern ≠ [] := by
    intro hnil
    rw [hnil] at hreads
    exact hreads.ne_nil rfl
  have hcondition : w.condition = w.pattern := by
    rw [WhereClause.condition, if_neg (by simpa using hne)]
  obtain ⟨e, he, hvalue⟩ := hreads
  rw [Facts.truth?, Expr.read?, hsolid, hcondition, Option.bind_some, he.readTokens]
  exact congrArg some hvalue

end DocStore
