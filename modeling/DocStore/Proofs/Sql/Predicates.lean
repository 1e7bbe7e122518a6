import DocStore.Proofs.Sql.Operands

/-!
# What a condition says about a row

The operands of a condition that compare one column are read as a `Predicate`: whether the column
is `NULL`, equality with a value, membership in a list of values, containment in a JSON array, and
equality of points.  The column may be a place inside a JSON column.

`Facts` are what is the case in a row.  A predicate that compares a column is unknown if the column
is `NULL` there, and only then; this gives every operand a truth value (`Facts.truth`), and so every
condition that can be read.
-/

namespace DocStore

namespace Sql

/-- A predicate on a column, which is given by its tokens. -/
inductive Predicate where
  | isNull (x : List Token)
  | isPresent (x : List Token)
  | equal (x : List Token) (v : Token)
  | different (x : List Token) (v : Token)
  | among (x : List Token) (vs : List Token)
  | notAmong (x : List Token) (vs : List Token)
  /-- The array of the column contains a JSON value. -/
  | contains (x : List Token) (v : Token)
  | lacks (x : List Token) (v : Token)
  /-- The column is the point of a well-known text. -/
  | isAt (x : List Token) (p : Token)
  | isNotAt (x : List Token) (p : Token)
  deriving DecidableEq, Repr

namespace Predicate

/-- The column at the beginning of tokens, and the tokens behind it. -/
def column? : List Token → Option (List Token × List Token)
  | name :: ⟨.mark, "-"⟩ :: ⟨.mark, ">"⟩ :: ⟨.mark, ">"⟩ :: path :: rest =>
    some ([name, ⟨.mark, "-"⟩, ⟨.mark, ">"⟩, ⟨.mark, ">"⟩, path], rest)
  | name :: rest => some ([name], rest)
  | [] => none

/-- Values with commas between them and a parenthesis behind the last. -/
def values? : List Token → Option (List Token)
  | [v, ⟨.mark, ")"⟩] => some [v]
  | v :: ⟨.mark, ","⟩ :: rest => (values? rest).map (v :: ·)
  | _ => none

/-- What is said of a column. -/
def ofColumn? (x : List Token) : List Token → Option Predicate
  | [⟨.word, "IS"⟩, ⟨.word, "NULL"⟩] => some (.isNull x)
  | [⟨.word, "IS"⟩, ⟨.word, "NOT"⟩, ⟨.word, "NULL"⟩] => some (.isPresent x)
  | [⟨.mark, "="⟩, v] => some (.equal x v)
  | [⟨.mark, "<"⟩, ⟨.mark, ">"⟩, v] => some (.different x v)
  | ⟨.word, "IN"⟩ :: ⟨.mark, "("⟩ :: rest => (values? rest).map (.among x)
  | ⟨.word, "NOT"⟩ :: ⟨.word, "IN"⟩ :: ⟨.mark, "("⟩ :: rest => (values? rest).map (.notAmong x)
  | _ => none

/-- The rest of a containment. -/
def ofContainment? (x : List Token) : List Token → Option Predicate
  | [⟨.mark, ","⟩, v, ⟨.mark, ")"⟩, ⟨.mark, "="⟩, ⟨.number, "1"⟩] => some (.contains x v)
  | [⟨.mark, ","⟩, v, ⟨.mark, ")"⟩, ⟨.mark, "="⟩, ⟨.number, "0"⟩] => some (.lacks x v)
  | _ => none

/-- The point behind a column. -/
def point? : List Token → Option Token
  | [⟨.mark, ","⟩, ⟨.word, "ST_GeomFromText"⟩, ⟨.mark, "("⟩, p, ⟨.mark, ")"⟩, ⟨.mark, ")"⟩] => some p
  | _ => none

/-- The predicate that the tokens of an operand spell out. -/
def read? : List Token → Option Predicate
  | ⟨.word, "JSON_CONTAINS"⟩ :: ⟨.mark, "("⟩ :: rest => do
    let (x, rest) ← column? rest
    ofContainment? x rest
  | ⟨.word, "ST_Equals"⟩ :: ⟨.mark, "("⟩ :: rest => do
    let (x, rest) ← column? rest
    (point? rest).map (.isAt x)
  | ⟨.word, "NOT"⟩ :: ⟨.word, "ST_Equals"⟩ :: ⟨.mark, "("⟩ :: rest => do
    let (x, rest) ← column? rest
    (point? rest).map (.isNotAt x)
  | ts => do
    let (x, rest) ← column? ts
    ofColumn? x rest

end Predicate

/-- What is the case in a row.  What is said about values counts only where the column is not
`NULL`. -/
structure Facts where
  isNull : List Token → Bool
  equals : List Token → Token → Bool
  contains : List Token → Token → Bool
  isAt : List Token → Token → Bool

/-- A truth value that is known. -/
def Truth.ofBool (b : Bool) : Truth := if b then .yes else .no

namespace Facts

variable (φ : Facts)

/-- What comparing a column gives: nothing is known if the column is `NULL`. -/
def judge (x : List Token) (b : Bool) : Truth :=
  if φ.isNull x then .unknown else Truth.ofBool b

/-- The truth value of a predicate. -/
def holds : Predicate → Truth
  | .isNull x => Truth.ofBool (φ.isNull x)
  | .isPresent x => Truth.ofBool (!φ.isNull x)
  | .equal x v => φ.judge x (φ.equals x v)
  | .different x v => φ.judge x (!φ.equals x v)
  | .among x vs => φ.judge x (vs.any (φ.equals x))
  | .notAmong x vs => φ.judge x (!vs.any (φ.equals x))
  | .contains x v => φ.judge x (φ.contains x v)
  | .lacks x v => φ.judge x (!φ.contains x v)
  | .isAt x p => φ.judge x (φ.isAt x p)
  | .isNotAt x p => φ.judge x (!φ.isAt x p)

/-- The truth value of an operand; nothing is known of one that is no predicate. -/
def truth (ts : List Token) : Truth := ((Predicate.read? ts).map φ.holds).getD .unknown

/-- The truth value of a condition, if it can be read. -/
def truth? (condition : String) : Option Truth :=
  (Expr.read? condition).map (Expr.value φ.truth)

/-! ### Truth values -/

variable {φ : Facts} {x : List Token} {b : Bool}

theorem ofBool_eq_yes : Truth.ofBool b = .yes ↔ b = true := by cases b <;> decide

theorem judge_eq_yes : φ.judge x b = .yes ↔ φ.isNull x = false ∧ b = true := by
  unfold judge
  cases φ.isNull x <;> cases b <;> decide

/-- What is not known where the column is `NULL` holds or not as one likes, if that case is
added. -/
theorem judge_or_isNull : (φ.judge x b).or (φ.holds (.isNull x)) = .ofBool (φ.isNull x || b) := by
  simp only [judge, holds]
  cases φ.isNull x <;> cases b <;> rfl

theorem isNull_or_judge : (φ.holds (.isNull x)).or (φ.judge x b) = .ofBool (φ.isNull x || b) := by
  simp only [judge, holds]
  cases φ.isNull x <;> cases b <;> rfl

theorem isPresent_and_judge :
    (φ.holds (.isPresent x)).and (φ.judge x b) = .ofBool (!φ.isNull x && b) := by
  simp only [judge, holds]
  cases φ.isNull x <;> cases b <;> rfl

theorem judge_or_judge {c : Bool} : (φ.judge x b).or (φ.judge x c) = φ.judge x (b || c) := by
  unfold judge
  cases φ.isNull x <;> cases b <;> cases c <;> rfl

theorem judge_and_judge {c : Bool} : (φ.judge x b).and (φ.judge x c) = φ.judge x (b && c) := by
  unfold judge
  cases φ.isNull x <;> cases b <;> cases c <;> rfl

/-- Judgements of one column connected by "or" are one judgement. -/
theorem value_disj {α : Type} {σ : α → Truth} {es : List (Expr α)} {bs : List Bool}
    (h : List.Forall₂ (fun e b => e.value σ = φ.judge x b) es bs) (hne : es ≠ []) :
    (Expr.disj es).value σ = φ.judge x (bs.any id) := by
  induction h with
  | nil => exact absurd rfl hne
  | @cons e b es bs he hes ih =>
    cases hes with
    | nil => simpa [Expr.disj] using he
    | cons he' hes =>
      rw [List.any_cons, ← judge_or_judge, ← ih (List.cons_ne_nil _ _), id_eq, ← he]
      rfl

/-- Judgements of one column connected by "and" are one judgement. -/
theorem value_conj {α : Type} {σ : α → Truth} {es : List (Expr α)} {bs : List Bool}
    (h : List.Forall₂ (fun e b => e.value σ = φ.judge x b) es bs) (hne : es ≠ []) :
    (Expr.conj es).value σ = φ.judge x (bs.all id) := by
  induction h with
  | nil => exact absurd rfl hne
  | @cons e b es bs he hes ih =>
    cases hes with
    | nil => simpa [Expr.conj] using he
    | cons he' hes =>
      rw [List.all_cons, ← judge_and_judge, ← ih (List.cons_ne_nil _ _), id_eq, ← he]
      rfl

end Facts

/-! ### Reading predicates -/

/-- The tokens of a column: a name, or a name and a path inside it. -/
inductive IsColumn : List Token → Prop where
  | plain (name source : String) : IsColumn [⟨.name name, source⟩]
  | inside (name source path literal : String) :
    IsColumn [⟨.name name, source⟩, ⟨.mark, "-"⟩, ⟨.mark, ">"⟩, ⟨.mark, ">"⟩, ⟨.string path, literal⟩]

namespace Predicate

variable {x : List Token} {v : Token}

theorem read?_isNull (hx : IsColumn x) :
    read? (x ++ [⟨.word, "IS"⟩, ⟨.word, "NULL"⟩]) = some (.isNull x) := by
  cases hx <;> rfl

theorem read?_isPresent (hx : IsColumn x) :
    read? (x ++ [⟨.word, "IS"⟩, ⟨.word, "NOT"⟩, ⟨.word, "NULL"⟩]) = some (.isPresent x) := by
  cases hx <;> rfl

theorem read?_equal (hx : IsColumn x) : read? (x ++ [⟨.mark, "="⟩, v]) = some (.equal x v) := by
  cases hx <;> rfl

theorem read?_different (hx : IsColumn x) :
    read? (x ++ [⟨.mark, "<"⟩, ⟨.mark, ">"⟩, v]) = some (.different x v) := by
  cases hx <;> rfl

theorem read?_contains (hx : IsColumn x) :
    read? (⟨.word, "JSON_CONTAINS"⟩ :: ⟨.mark, "("⟩ :: (x ++
      [⟨.mark, ","⟩, v, ⟨.mark, ")"⟩, ⟨.mark, "="⟩, ⟨.number, "1"⟩])) = some (.contains x v) := by
  cases hx <;> rfl

theorem read?_lacks (hx : IsColumn x) :
    read? (⟨.word, "JSON_CONTAINS"⟩ :: ⟨.mark, "("⟩ :: (x ++
      [⟨.mark, ","⟩, v, ⟨.mark, ")"⟩, ⟨.mark, "="⟩, ⟨.number, "0"⟩])) = some (.lacks x v) := by
  cases hx <;> rfl

theorem read?_isAt (hx : IsColumn x) :
    read? (⟨.word, "ST_Equals"⟩ :: ⟨.mark, "("⟩ :: (x ++ [⟨.mark, ","⟩, ⟨.word, "ST_GeomFromText"⟩,
      ⟨.mark, "("⟩, v, ⟨.mark, ")"⟩, ⟨.mark, ")"⟩])) = some (.isAt x v) := by
  cases hx <;> rfl

theorem read?_isNotAt (hx : IsColumn x) :
    read? (⟨.word, "NOT"⟩ :: ⟨.word, "ST_Equals"⟩ :: ⟨.mark, "("⟩ :: (x ++ [⟨.mark, ","⟩,
      ⟨.word, "ST_GeomFromText"⟩, ⟨.mark, "("⟩, v, ⟨.mark, ")"⟩, ⟨.mark, ")"⟩])) =
      some (.isNotAt x v) := by
  cases hx <;> rfl

/-- Values as they are written: with commas between them. -/
def separated : List Token → List Token
  | [] => []
  | [v] => [v]
  | v :: vs => v :: ⟨.mark, ","⟩ :: separated vs

theorem values?_separated {vs : List Token} (hne : vs ≠ []) :
    values? (separated vs ++ [⟨.mark, ")"⟩]) = some vs := by
  induction vs with
  | nil => exact absurd rfl hne
  | cons v vs ih =>
    cases vs with
    | nil => rfl
    | cons w vs =>
      have hrest := ih (List.cons_ne_nil _ _)
      have hvalues : values? (v :: ⟨.mark, ","⟩ :: (separated (w :: vs) ++ [⟨.mark, ")"⟩])) =
          (values? (separated (w :: vs) ++ [⟨.mark, ")"⟩])).map (v :: ·) := by
        rw [values?]
      exact hvalues.trans (by rw [hrest]; rfl)

theorem read?_among (hx : IsColumn x) {vs : List Token} (hne : vs ≠ []) :
    read? (x ++ ⟨.word, "IN"⟩ :: ⟨.mark, "("⟩ :: (separated vs ++ [⟨.mark, ")"⟩])) =
      some (.among x vs) := by
  have hvalues := values?_separated hne
  have hof : ofColumn? x (⟨.word, "IN"⟩ :: ⟨.mark, "("⟩ :: (separated vs ++ [⟨.mark, ")"⟩])) =
      some (.among x vs) := by
    rw [ofColumn?, hvalues]
    rfl
  cases hx with
  | plain name source => exact hof
  | inside name source path literal => exact hof

theorem read?_notAmong (hx : IsColumn x) {vs : List Token} (hne : vs ≠ []) :
    read? (x ++ ⟨.word, "NOT"⟩ :: ⟨.word, "IN"⟩ :: ⟨.mark, "("⟩ :: (separated vs ++
      [⟨.mark, ")"⟩])) = some (.notAmong x vs) := by
  have hvalues := values?_separated hne
  have hof : ofColumn? x (⟨.word, "NOT"⟩ :: ⟨.word, "IN"⟩ :: ⟨.mark, "("⟩ :: (separated vs ++
      [⟨.mark, ")"⟩])) = some (.notAmong x vs) := by
    rw [ofColumn?, hvalues]
    rfl
  cases hx with
  | plain name source => exact hof
  | inside name source path literal => exact hof

end Predicate

example : Predicate.read? [⟨.name "a", "a"⟩, ⟨.word, "NOT"⟩, ⟨.word, "IN"⟩, ⟨.mark, "("⟩,
    ⟨.number, "1"⟩, ⟨.mark, ","⟩, ⟨.string "b", "b"⟩, ⟨.mark, ")"⟩] =
    some (.notAmong [⟨.name "a", "a"⟩] [⟨.number, "1"⟩, ⟨.string "b", "b"⟩]) := by
  decide

end Sql

end DocStore
