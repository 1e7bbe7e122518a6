import DocStore.Proofs.Sql.Boolean
import DocStore.Proofs.Sql.Tokens

/-!
# Conditions read from their tokens

A condition in SQL connects operands by `AND` and `OR`, of which `AND` binds tighter, and groups
them by parentheses.  `readTokens` reads tokens that way, one after the other.  A parenthesis where
an operand is expected opens a group; inside an operand it belongs to the operand, together with
everything up to the one that closes it.

Texts of conjunctions can be joined by `AND`, and texts of disjunctions by `OR`, whatever is around
them (`IsConjunction.append`, `IsDisjunction.append`), and parentheses make a single operand of a
disjunction (`IsDisjunction.group`).
-/

namespace DocStore

namespace Sql

/-- What a token is to a condition. -/
inductive Part where
  | opening
  | closing
  | conjunction
  | disjunction
  | operand
  deriving DecidableEq, Repr

/-- What a token is to a condition. -/
def Token.part (t : Token) : Part :=
  if t = ⟨.mark, "("⟩ then .opening
  else if t = ⟨.mark, ")"⟩ then .closing
  else if t = ⟨.word, "AND"⟩ then .conjunction
  else if t = ⟨.word, "OR"⟩ then .disjunction
  else .operand

/-- The expression of an operand; the word `TRUE` is not an atom. -/
def operandExpr (ts : List Token) : Expr (List Token) :=
  if ts = [⟨.word, "TRUE"⟩] then .truth else .atom ts

/-- The operand that is being read. -/
inductive Operand where
  /-- The operand has not begun. -/
  | missing
  /-- An operand with this number of parentheses open; the last token is first. -/
  | begun (read : List Token) (depth : Nat)
  /-- A group that has been closed. -/
  | group (e : Expr (List Token))

/-- The expression of an operand that may end here. -/
def Operand.expr? : Operand → Option (Expr (List Token))
  | .begun read 0 => some (operandExpr read.reverse)
  | .group e => some e
  | _ => none

/-- What is read already between two parentheses: conjunctions in front of an `OR`, and operands
in front of an `AND`. -/
structure Level where
  disjuncts : List (List (Expr (List Token)))
  conjuncts : List (Expr (List Token))

/-- The expression of a level with its last operand. -/
def Level.close (l : Level) (e : Expr (List Token)) : Expr (List Token) :=
  .disj ((l.disjuncts ++ [l.conjuncts ++ [e]]).map .conj)

/-- Where the reader of conditions stands: the levels around it, its own, and its operand. -/
structure Reader where
  outer : List Level
  level : Level
  operand : Operand

namespace Reader

/-- The reader in front of a condition. -/
def start : Reader := ⟨[], ⟨[], []⟩, .missing⟩

/-- Read one token. -/
def step (r : Reader) (t : Token) : Option Reader :=
  match t.part, r.operand with
  | .opening, .missing => some ⟨r.level :: r.outer, ⟨[], []⟩, .missing⟩
  | .opening, .begun read depth => some { r with operand := .begun (t :: read) (depth + 1) }
  | .opening, .group _ => none
  | .closing, .begun read (depth + 1) => some { r with operand := .begun (t :: read) depth }
  | .closing, operand =>
    match operand.expr?, r.outer with
    | some e, level :: outer => some ⟨outer, level, .group (r.level.close e)⟩
    | _, _ => none
  | .conjunction, .begun read (depth + 1) =>
    some { r with operand := .begun (t :: read) (depth + 1) }
  | .conjunction, operand =>
    operand.expr?.map fun e =>
      ⟨r.outer, ⟨r.level.disjuncts, r.level.conjuncts ++ [e]⟩, .missing⟩
  | .disjunction, .begun read (depth + 1) =>
    some { r with operand := .begun (t :: read) (depth + 1) }
  | .disjunction, operand =>
    operand.expr?.map fun e =>
      ⟨r.outer, ⟨r.level.disjuncts ++ [r.level.conjuncts ++ [e]], []⟩, .missing⟩
  | .operand, .missing => some { r with operand := .begun [t] 0 }
  | .operand, .begun read depth => some { r with operand := .begun (t :: read) depth }
  | .operand, .group _ => none

/-- Read tokens. -/
def run : Reader → List Token → Option Reader
  | r, [] => some r
  | r, t :: ts => (r.step t).bind fun r => r.run ts

/-- The expression that was read, if it ends here. -/
def expr? (r : Reader) : Option (Expr (List Token)) :=
  if r.outer.isEmpty then r.operand.expr?.map r.level.close else none

/-- The expression that was read, if it is one operand or one group. -/
def primary? (r : Reader) : Option (Expr (List Token)) :=
  if r.outer.isEmpty && r.level.disjuncts.isEmpty && r.level.conjuncts.isEmpty then r.operand.expr?
  else none

theorem run_append (r : Reader) (ts us : List Token) :
    r.run (ts ++ us) = (r.run ts).bind fun r => r.run us := by
  induction ts generalizing r with
  | nil => rfl
  | cons t ts ih =>
    rw [List.cons_append, run, run]
    cases r.step t with
    | none => rfl
    | some r => exact ih r

end Reader

/-- The expression that tokens spell out. -/
def readTokens (ts : List Token) : Option (Expr (List Token)) :=
  (Reader.start.run ts).bind Reader.expr?

/-- The expression of tokens that are one operand or one group, so that no `AND` or `OR` stands
outside parentheses. -/
def readPrimary (ts : List Token) : Option (Expr (List Token)) :=
  (Reader.start.run ts).bind Reader.primary?

/-- The tokens of a text without its blanks. -/
def solidTokens? (s : String) : Option (List Token) :=
  (tokens? s).map fun ts => ts.filter fun t => t != ⟨.mark, " "⟩

/-- The expression that a text spells out. -/
def Expr.read? (s : String) : Option (Expr (List Token)) := (solidTokens? s).bind readTokens

/-- The expression of a text that is one operand or one group. -/
def Expr.readPrimary? (s : String) : Option (Expr (List Token)) :=
  (solidTokens? s).bind readPrimary

example : Expr.read? "a = 1 OR (b IN (2) OR f(x AND y)) AND TRUE" =
    some (.or (.atom [⟨.word, "a"⟩, ⟨.mark, "="⟩, ⟨.number, "1"⟩])
      (.and
        (.or
          (.atom [⟨.word, "b"⟩, ⟨.word, "IN"⟩, ⟨.mark, "("⟩, ⟨.number, "2"⟩, ⟨.mark, ")"⟩])
          (.atom [⟨.word, "f"⟩, ⟨.mark, "("⟩, ⟨.word, "x"⟩, ⟨.word, "AND"⟩, ⟨.word, "y"⟩,
            ⟨.mark, ")"⟩]))
        .truth)) := by
  decide +kernel

/-! ### Operands, conjunctions and disjunctions -/

/-- Tokens that are operands joined by `AND`, wherever an operand may begin. -/
def IsConjunction (ts : List Token) (es : List (Expr (List Token))) : Prop :=
  ∀ outer level, ∃ conjuncts operand e,
    Reader.run ⟨outer, level, .missing⟩ ts = some ⟨outer, ⟨level.disjuncts, conjuncts⟩, operand⟩ ∧
    operand.expr? = some e ∧ conjuncts ++ [e] = level.conjuncts ++ es

/-- Tokens that are conjunctions joined by `OR`, wherever a conjunction may begin. -/
def IsDisjunction (ts : List Token) (ess : List (List (Expr (List Token)))) : Prop :=
  ∀ outer disjuncts, ∃ level operand e,
    Reader.run ⟨outer, ⟨disjuncts, []⟩, .missing⟩ ts = some ⟨outer, level, operand⟩ ∧
    operand.expr? = some e ∧ level.disjuncts ++ [level.conjuncts ++ [e]] = disjuncts ++ ess

theorem Operand.of_expr? {operand : Operand} {e : Expr (List Token)} (h : operand.expr? = some e) :
    (∃ read, operand = .begun read 0 ∧ e = operandExpr read.reverse) ∨ operand = .group e := by
  cases operand with
  | missing => cases h
  | begun read depth =>
    cases depth with
    | zero =>
      cases h
      exact .inl ⟨read, rfl, rfl⟩
    | succ depth => cases h
  | group e' =>
    cases h
    exact .inr rfl

variable {ts us : List Token} {es fs : List (Expr (List Token))}
  {ess fss : List (List (Expr (List Token)))}

/-- The word between conjuncts. -/
def andToken : Token := ⟨.word, "AND"⟩

/-- The word between disjuncts. -/
def orToken : Token := ⟨.word, "OR"⟩

theorem step_and {r : Reader} {e : Expr (List Token)} (h : r.operand.expr? = some e) :
    r.step andToken =
      some ⟨r.outer, ⟨r.level.disjuncts, r.level.conjuncts ++ [e]⟩, .missing⟩ := by
  have hpart : andToken.part = .conjunction := by decide
  rcases Operand.of_expr? h with ⟨read, hoperand, rfl⟩ | hoperand
  · simp [Reader.step, hpart, hoperand, Operand.expr?]
  · simp [Reader.step, hpart, hoperand, Operand.expr?]

theorem step_or {r : Reader} {e : Expr (List Token)} (h : r.operand.expr? = some e) :
    r.step orToken =
      some ⟨r.outer, ⟨r.level.disjuncts ++ [r.level.conjuncts ++ [e]], []⟩, .missing⟩ := by
  have hpart : orToken.part = .disjunction := by decide
  rcases Operand.of_expr? h with ⟨read, hoperand, rfl⟩ | hoperand
  · simp [Reader.step, hpart, hoperand, Operand.expr?]
  · simp [Reader.step, hpart, hoperand, Operand.expr?]

theorem IsConjunction.append (hts : IsConjunction ts es) (hus : IsConjunction us fs) :
    IsConjunction (ts ++ andToken :: us) (es ++ fs) := by
  intro outer level
  obtain ⟨conjuncts, operand, e, hrun, he, hes⟩ := hts outer level
  obtain ⟨conjuncts', operand', f, hrun', hf, hfs⟩ :=
    hus outer ⟨level.disjuncts, conjuncts ++ [e]⟩
  refine ⟨conjuncts', operand', f, ?_, hf, ?_⟩
  · rw [Reader.run_append, hrun, Option.bind_some, Reader.run, step_and he, Option.bind_some]
    exact hrun'
  · rw [hfs, hes, List.append_assoc]

theorem IsDisjunction.append (hts : IsDisjunction ts ess) (hus : IsDisjunction us fss) :
    IsDisjunction (ts ++ orToken :: us) (ess ++ fss) := by
  intro outer disjuncts
  obtain ⟨level, operand, e, hrun, he, hes⟩ := hts outer disjuncts
  obtain ⟨level', operand', f, hrun', hf, hfs⟩ :=
    hus outer (level.disjuncts ++ [level.conjuncts ++ [e]])
  refine ⟨level', operand', f, ?_, hf, ?_⟩
  · rw [Reader.run_append, hrun, Option.bind_some, Reader.run, step_or he, Option.bind_some]
    exact hrun'
  · rw [hfs, hes, List.append_assoc]

theorem IsConjunction.isDisjunction (h : IsConjunction ts es) : IsDisjunction ts [es] := by
  intro outer disjuncts
  obtain ⟨conjuncts, operand, e, hrun, he, hes⟩ := h outer ⟨disjuncts, []⟩
  exact ⟨_, operand, e, hrun, he, by rw [hes]; rfl⟩

theorem step_opening {r : Reader} (h : r.operand = .missing) :
    r.step ⟨.mark, "("⟩ = some ⟨r.level :: r.outer, ⟨[], []⟩, .missing⟩ := by
  have hpart : Token.part ⟨.mark, "("⟩ = .opening := by decide
  simp [Reader.step, hpart, h]

theorem step_closing {r : Reader} {e : Expr (List Token)} {level : Level} {outer : List Level}
    (h : r.operand.expr? = some e) (houter : r.outer = level :: outer) :
    r.step ⟨.mark, ")"⟩ = some ⟨outer, level, .group (r.level.close e)⟩ := by
  have hpart : Token.part ⟨.mark, ")"⟩ = .closing := by decide
  rcases Operand.of_expr? h with ⟨read, hoperand, rfl⟩ | hoperand
  · simp [Reader.step, hpart, hoperand, Operand.expr?, houter]
  · simp [Reader.step, hpart, hoperand, Operand.expr?, houter]

/-- **Parentheses make one operand of a disjunction.** -/
theorem IsDisjunction.group (h : IsDisjunction ts ess) :
    IsConjunction (⟨.mark, "("⟩ :: ts ++ [⟨.mark, ")"⟩]) [.disj (ess.map .conj)] := by
  intro outer level
  -- inside the parentheses, the level around them waits among the outer ones
  obtain ⟨inner, operand, e, hrun, he, hes⟩ := h (level :: outer) []
  refine ⟨level.conjuncts, .group (inner.close e), inner.close e, ?_, rfl, ?_⟩
  · rw [Reader.run_append, Reader.run, step_opening rfl, Option.bind_some, hrun, Option.bind_some,
      Reader.run, step_closing he rfl]
    rfl
  · rw [Level.close, hes]
    rfl

theorem IsDisjunction.readTokens (h : IsDisjunction ts ess) :
    readTokens ts = some (.disj (ess.map .conj)) := by
  obtain ⟨level, operand, e, hrun, he, hes⟩ := h [] []
  have hstart : Reader.start.run ts = some ⟨[], level, operand⟩ := hrun
  rw [Sql.readTokens, hstart, Option.bind_some, Reader.expr?]
  simp only [List.isEmpty_nil, if_true, he, Option.map_some, Level.close, hes]
  rfl

theorem IsConjunction.readTokens (h : IsConjunction ts es) : readTokens ts = some (.conj es) :=
  h.isDisjunction.readTokens

theorem IsConjunction.readPrimary {e : Expr (List Token)} (h : IsConjunction ts [e]) :
    readPrimary ts = some e := by
  obtain ⟨conjuncts, operand, e', hrun, he, hes⟩ := h [] ⟨[], []⟩
  have hstart : Reader.start.run ts = some ⟨[], ⟨[], conjuncts⟩, operand⟩ := hrun
  have hlast : conjuncts ++ [e'] = [e] := by simpa using hes
  cases conjuncts with
  | nil =>
    cases hlast
    rw [Sql.readPrimary, hstart]
    exact he
  | cons c cs => simp at hlast

/-! ### Tokens of one operand -/

/-- The number of open parentheses of an operand behind a token; `none` in front of the operand. -/
def stepDepth : Option Nat → Token → Option (Option Nat)
  | none, t => if t.part = .operand then some (some 0) else none
  | some 0, t =>
    match t.part with
    | .operand => some (some 0)
    | .opening => some (some 1)
    | _ => none
  | some (depth + 1), t =>
    match t.part with
    | .opening => some (some (depth + 2))
    | .closing => some (some depth)
    | _ => some (some (depth + 1))

/-- The number of open parentheses behind tokens that belong to one operand. -/
def runDepth : Option Nat → List Token → Option (Option Nat)
  | d, [] => some d
  | d, t :: ts => (stepDepth d t).bind fun d => runDepth d ts

theorem runDepth_append (d : Option Nat) (ts us : List Token) :
    runDepth d (ts ++ us) = (runDepth d ts).bind fun d => runDepth d us := by
  induction ts generalizing d with
  | nil => rfl
  | cons t ts ih =>
    rw [List.cons_append, runDepth, runDepth]
    cases stepDepth d t with
    | none => rfl
    | some d => exact ih d

/-- The operand with these tokens read and so many parentheses open. -/
def Operand.at (read : List Token) : Option Nat → Operand
  | none => .missing
  | some depth => .begun read depth

theorem step_of_stepDepth {outer : List Level} {level : Level} {read : List Token}
    {d d' : Option Nat} {t : Token} (h : stepDepth d t = some d') (hread : d = none → read = []) :
    Reader.step ⟨outer, level, .at read d⟩ t = some ⟨outer, level, .at (t :: read) d'⟩ := by
  cases d with
  | none =>
    rw [hread rfl]
    rw [stepDepth] at h
    split at h
    · next hpart =>
      cases h
      simp [Reader.step, hpart, Operand.at]
    · cases h
  | some depth =>
    cases depth with
    | zero =>
      cases hpart : t.part <;> simp only [stepDepth, hpart] at h <;> cases h <;>
        simp [Reader.step, hpart, Operand.at]
    | succ depth =>
      cases hpart : t.part <;> simp only [stepDepth, hpart] at h <;> cases h <;>
        simp [Reader.step, hpart, Operand.at]

theorem run_of_runDepth {outer : List Level} {level : Level} {read : List Token}
    {d d' : Option Nat} (h : runDepth d ts = some d') (hread : d = none → read = []) :
    Reader.run ⟨outer, level, .at read d⟩ ts =
      some ⟨outer, level, .at (ts.reverse ++ read) d'⟩ := by
  induction ts generalizing d read with
  | nil =>
    cases h
    rfl
  | cons t ts ih =>
    obtain ⟨d₁, hstep, h⟩ := Option.bind_eq_some_iff.1 h
    -- the operand has begun behind its first token
    have hsome : d₁ ≠ none := by
      rintro rfl
      rcases d with - | (- | depth) <;> simp only [stepDepth] at hstep <;> split at hstep <;>
        simp at hstep
    rw [Reader.run, step_of_stepDepth hstep hread, Option.bind_some,
      ih h fun hnone => absurd hnone hsome]
    simp

/-- **Balanced tokens that begin with no parenthesis are one operand.** -/
theorem isConjunction_of_runDepth (h : runDepth none ts = some (some 0)) :
    IsConjunction ts [operandExpr ts] := by
  intro outer level
  have hrun : Reader.run ⟨outer, level, .missing⟩ ts =
      some ⟨outer, level, .at (ts.reverse ++ []) (some 0)⟩ := run_of_runDepth h fun _ => rfl
  exact ⟨level.conjuncts, _, operandExpr ts, hrun, by simp [Operand.at, Operand.expr?], rfl⟩

end Sql

end DocStore
