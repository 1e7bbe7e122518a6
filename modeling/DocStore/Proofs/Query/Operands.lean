import DocStore.Proofs.Query.Clear
import DocStore.Proofs.Sql.Operands

/-!
# Tests as operands

The text of a test is one operand of a condition or one group in parentheses
(`Test.isPrimary_condition`), so that it can stand between any `AND` and `OR`.  Tests of several
items are written as a group and must not be empty (`Test.Full`); tests that come from a query never
are.
-/

namespace DocStore

open Sql

open Template (Closes Neutral Inner IsPrimary)

theorem Target.neutral_text (x : Target) (n : Nat) : Neutral (x.text n) := by
  unfold text
  split
  · -- the arrow belongs to the operand, however many parentheses are open
    have harrow : ∀ k, Sql.runDepth (some k) (solid "->>") = some (some k) := by
      have htokens : solid "->>" = [⟨.mark, "-"⟩, ⟨.mark, ">"⟩, ⟨.mark, ">"⟩] := by decide
      intro k
      cases k <;> rw [htokens] <;> rfl
    intro d
    show Template.depth (some (d.getD 0)) [.text "->>", .slot (n + 1)] = _
    rw [Template.depth, harrow]
    rfl
  · exact Template.neutral_slot n

namespace Test

variable {x : Template} {n : Nat} {g : Nat → Token}

/-- Lists of tests that are written as a group are not empty. -/
def Full : Test → Prop
  | .holdsAny items | .holdsNone items => items ≠ []
  | .orNull test | .nullOr test | .presentAnd test => Full test
  | _ => True

theorem inner_slots (count : Nat) : Inner (Template.join ", " (slotsFrom n count)) := by
  refine Template.inner_join (fun k => ?_) fun t ht => ?_
  · have htokens : solid ", " = [⟨.mark, ","⟩] := by decide
    rw [htokens]
    rfl
  · obtain ⟨i, -, rfl⟩ := List.mem_map.1 ht
    exact (Template.neutral_slot i).inner

theorem closes_containment (hx : Neutral x) {expected : String}
    (h : expected = "1" ∨ expected = "0") : Closes none (containment x n expected) := by
  have hexpected : Sql.runDepth (some 0) (solid expected) = some (some 0) := by
    rcases h with rfl | rfl <;> decide
  exact .text 1 rfl (.part hx (.text 1 rfl (.part (Template.neutral_slot n) (.text 0 rfl
    (.text 0 hexpected .nil)))))

theorem isPrimary_containments (hg : Operands g) (hx : Neutral x) {expected : String}
    (h : expected = "1" ∨ expected = "0") (count : Nat) :
    ∀ t ∈ containments x expected n count, IsPrimary g t := by
  intro t ht
  obtain ⟨i, -, rfl⟩ := List.mem_map.1 ht
  exact (closes_containment hx h).isPrimary hg

theorem containments_ne_nil {expected : String} {items : List Json} (h : items ≠ []) :
    containments x expected n items.length ≠ [] := by
  simpa [containments] using h

theorem closes_symbol (relation : Relation) {t : Template} (ht : Neutral t) :
    Closes (some 0) (sql [relation.symbol, " ", t]) := by
  have hstep : Sql.runDepth (some 0) (solid relation.symbol) = some (some 0) := by
    cases relation with
    | equal | different => decide
    | ordered comparison => cases comparison <;> decide
  exact .text 0 hstep (.text 0 rfl (.part ht .nil))

theorem closes_isNull (hx : Neutral x) : Closes none (sql [x, " IS NULL"]) :=
  .part hx (.text 0 rfl .nil)

theorem closes_isPresent (hx : Neutral x) : Closes none (sql [x, " IS NOT NULL"]) :=
  .part hx (.text 0 rfl .nil)

theorem closes_scalar (hx : Neutral x) (relation : Relation) :
    Closes none (sql [x, " ", relation.symbol, " ", .slot n]) :=
  .part hx (.text 0 rfl (closes_symbol relation (Template.neutral_slot n)))

theorem closes_among (hx : Neutral x) (count : Nat) :
    Closes none (sql [x, " IN (", .join ", " (slotsFrom n count), ")"]) :=
  .part hx (.text 1 rfl (.inner (inner_slots _) (.text 0 rfl .nil)))

theorem closes_notAmong (hx : Neutral x) (count : Nat) :
    Closes none (sql [x, " NOT IN (", .join ", " (slotsFrom n count), ")"]) :=
  .part hx (.text 1 rfl (.inner (inner_slots _) (.text 0 rfl .nil)))

theorem closes_atPoint (hx : Neutral x) :
    Closes none (sql ["ST_Equals(", x, ", ST_GeomFromText(", .slot n, "))"]) :=
  .text 1 rfl (.part hx (.text 2 rfl (.part (Template.neutral_slot n) (.text 0 rfl .nil))))

theorem closes_notAtPoint (hx : Neutral x) :
    Closes none (sql ["NOT ST_Equals(", x, ", ST_GeomFromText(", .slot n, "))"]) :=
  .text 1 rfl (.part hx (.text 2 rfl (.part (Template.neutral_slot n) (.text 0 rfl .nil))))

/-- **A test is one operand of a condition, or one group.** -/
theorem isPrimary_condition (hg : Operands g) (hx : Neutral x) {t : Test} (hfull : t.Full) :
    IsPrimary g (t.condition x n) := by
  have hn := Template.neutral_slot n
  have hopen : solid "(" = [⟨.mark, "("⟩] := by decide
  induction t with
  | always =>
    have hclosed : Closes none (sql ["TRUE"]) := .text 0 rfl .nil
    exact hclosed.isPrimary hg
  | isNull => exact (closes_isNull hx).isPrimary hg
  | isPresent => exact (closes_isPresent hx).isPrimary hg
  | scalar relation operand => exact (closes_scalar hx relation).isPrimary hg
  | among operands => exact (closes_among hx _).isPrimary hg
  | notAmong operands => exact (closes_notAmong hx _).isPrimary hg
  | holds items => exact (closes_containment hx (.inl rfl)).isPrimary hg
  | lacks items => exact (closes_containment hx (.inr rfl)).isPrimary hg
  | holdsAny items =>
    -- the items are connected by `OR`, those of `holdsNone` by `AND`
    obtain ⟨es, hes⟩ := Template.exists_forall₂_of_isPrimary
      (isPrimary_containments (n := n) hg hx (.inl rfl) items.length)
    exact ⟨_, Template.isConjunction_group
      (Template.isDisjunction_join rfl (containments_ne_nil hfull) hes)⟩
  | holdsNone items =>
    obtain ⟨es, hes⟩ := Template.exists_forall₂_of_isPrimary
      (isPrimary_containments (n := n) hg hx (.inr rfl) items.length)
    exact ⟨_, Template.isConjunction_group
      (Template.isConjunction_join rfl (containments_ne_nil hfull) hes).isDisjunction⟩
  | atPoint wkt => exact (closes_atPoint hx).isPrimary hg
  | notAtPoint wkt => exact (closes_notAtPoint hx).isPrimary hg
  | regex pattern =>
    have hclosed : Closes none (sql ["REGEXP_LIKE(", x, ", ", .slot n, ", 'c')"]) :=
      .text 1 rfl (.part hx (.text 1 rfl (.part hn (.text 0 rfl .nil))))
    exact hclosed.isPrimary hg
  | text term =>
    have hclosed : Closes none (relevance x n) :=
      .text 1 rfl (.part hx (.text 1 rfl (.part hn (.text 0 rfl .nil))))
    exact hclosed.isPrimary hg
  | near origin reach =>
    cases reach with
    | none => exact (closes_isPresent hx).isPrimary hg
    | some meters =>
      have hdistance : Closes none (distance x n) :=
        .text 1 rfl (.part hx (.text 2 rfl (.part hn (.text 0 rfl .nil))))
      have hclosed : Closes none (sql [distance x n, " <= ", .slot (n + 1)]) :=
        .prepend hdistance (.text 0 rfl (.part (Template.neutral_slot _) .nil))
      exact hclosed.isPrimary hg
  | inBox corner opposite =>
    have hclosed : Closes none (sql ["MBRCovers(ST_GeomFromText(", .slot n, "), ", x, ")"]) :=
      .text 2 rfl (.part hn (.text 1 rfl (.part hx (.text 0 rfl .nil))))
    exact hclosed.isPrimary hg
  | inPolygon ring =>
    have hclosed : Closes none (sql ["ST_Contains(ST_GeomFromText(", .slot n, "), ", x, ")"]) :=
      .text 2 rfl (.part hn (.text 1 rfl (.part hx (.text 0 rfl .nil))))
    exact hclosed.isPrimary hg
  | orNull test ih =>
    obtain ⟨e, he⟩ := ih hfull
    obtain ⟨f, hf⟩ := (closes_isNull hx).isPrimary hg
    -- the last parenthesis closes the group, not the operand
    have hnull : solid " IS NULL)" = solid " IS NULL" ++ [⟨.mark, ")"⟩] := by decide
    have hor : solid " OR " = [orToken] := by decide
    have hgroup := (he.isDisjunction.append hf.isDisjunction).group
    exact ⟨_, by simpa [condition, hopen, hor, hnull] using hgroup⟩
  | nullOr test ih =>
    obtain ⟨e, he⟩ := ih hfull
    obtain ⟨f, hf⟩ := (closes_isNull hx).isPrimary hg
    have hnull : solid " IS NULL OR " = solid " IS NULL" ++ [orToken] := by decide
    have hclose : solid ")" = [⟨.mark, ")"⟩] := by decide
    have hgroup := (hf.isDisjunction.append he.isDisjunction).group
    exact ⟨_, by simpa [condition, hopen, hclose, hnull] using hgroup⟩
  | presentAnd test ih =>
    obtain ⟨e, he⟩ := ih hfull
    obtain ⟨f, hf⟩ := (closes_isPresent hx).isPrimary hg
    have hpresent : solid " IS NOT NULL AND " = solid " IS NOT NULL" ++ [andToken] := by decide
    have hclose : solid ")" = [⟨.mark, ")"⟩] := by decide
    have hgroup := (hf.append he).isDisjunction.group
    exact ⟨_, by simpa [condition, hopen, hclose, hpresent] using hgroup⟩

end Test

end DocStore
