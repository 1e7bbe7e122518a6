import DocStore.Proofs.Sql.Operands

/-!
# Terms

The right side of an assignment is read as a `Term`: words, numbers, sums, and calls of functions,
one of whose arguments may be marked `AS JSON`.  `Term.read?` reads tokens from left to right with
the calls that are open around them.

Tokens that are a term are read as it wherever a term may begin (`Term.IsFactor`), and so are
arguments with commas between them (`Term.IsArguments`).
-/

namespace DocStore

namespace Sql

/-- An expression of a value. -/
inductive Term where
  | word (source : String)
  | number (source : String)
  | sum (left right : Term)
  | asJson (e : Term)
  | call (name : String) (args : List Term)

namespace Term

/-- What stands behind the last comma, parenthesis or sign. -/
inductive Operand where
  | missing
  | name (source : String)
  | done (e : Term)
  /-- Behind the word `AS`. -/
  | typed (e : Term)

/-- The term of an operand. -/
def Operand.term? : Operand → Option Term
  | .name source => some (.word source)
  | .done e => some e
  | .missing | .typed _ => none

/-- A call that is open, with the arguments in front of the last comma, and what stands in front of
the last sign behind it. -/
structure Level where
  name : String
  args : List Term
  left : Option Term

/-- A reader with the calls that are open, the innermost apart. -/
structure Reader where
  outer : List Level
  level : Level
  operand : Operand

namespace Reader

/-- A reader in front of everything. -/
def start : Reader := ⟨[], ⟨"", [], none⟩, .missing⟩

/-- The term behind the last comma or parenthesis. -/
def whole? (r : Reader) : Option Term :=
  r.operand.term?.map fun e =>
    match r.level.left with
    | none => e
    | some left => .sum left e

/-- The arguments of the innermost call, if it ends here. -/
def args? (r : Reader) : Option (List Term) :=
  match r.operand, r.level with
  | .missing, ⟨_, [], none⟩ => some []
  | _, _ => r.whole?.map fun e => r.level.args ++ [e]

/-- Read one token. -/
def step (r : Reader) : Token → Option Reader
  | ⟨.word, source⟩ =>
    match r.operand with
    | .missing => some { r with operand := .name source }
    | .typed e => if source = "JSON" then some { r with operand := .done (.asJson e) } else none
    | operand =>
      if source = "AS" then operand.term?.map fun e => { r with operand := .typed e } else none
  | ⟨.number, source⟩ =>
    match r.operand with
    | .missing => some { r with operand := .done (.number source) }
    | _ => none
  | ⟨.mark, "("⟩ =>
    match r.operand with
    | .name source => some ⟨r.level :: r.outer, ⟨source, [], none⟩, .missing⟩
    | _ => none
  | ⟨.mark, ")"⟩ =>
    match r.outer with
    | level :: outer => r.args?.map fun args => ⟨outer, level, .done (.call r.level.name args)⟩
    | [] => none
  | ⟨.mark, ","⟩ =>
    r.whole?.map fun e => ⟨r.outer, ⟨r.level.name, r.level.args ++ [e], none⟩, .missing⟩
  | ⟨.mark, "+"⟩ =>
    r.whole?.map fun e => ⟨r.outer, ⟨r.level.name, r.level.args, some e⟩, .missing⟩
  | _ => none

/-- Read tokens. -/
def run (r : Reader) : List Token → Option Reader
  | [] => some r
  | t :: ts => (r.step t).bind fun r => run r ts

end Reader

/-- The term that tokens spell out. -/
def read? (ts : List Token) : Option Term :=
  (Reader.start.run ts).bind fun r =>
    if r.outer.isEmpty && r.level.args.isEmpty then r.whole? else none

variable {ts us : List Token} {e f : Term} {es fs : List Term} {r : Reader}

namespace Reader

theorem run_append (r : Reader) (ts us : List Token) :
    r.run (ts ++ us) = (r.run ts).bind fun r => r.run us := by
  induction ts generalizing r with
  | nil => rfl
  | cons t ts ih =>
    rw [List.cons_append, run, run, Option.bind_assoc]
    exact congrArg _ (funext fun r => ih r)

theorem run_singleton (r : Reader) (t : Token) : r.run [t] = r.step t := by
  rw [run]
  cases r.step t <;> rfl

end Reader

/-- Tokens that are one term without a sign around it. -/
def IsFactor (ts : List Token) (e : Term) : Prop :=
  ∀ outer level, ∃ operand, Reader.run ⟨outer, level, .missing⟩ ts = some ⟨outer, level, operand⟩ ∧
    operand.term? = some e

/-- Tokens that are arguments with commas between them, behind a comma or a parenthesis. -/
def IsArguments (ts : List Token) (es : List Term) : Prop :=
  ∀ outer name args, ∃ r, Reader.run ⟨outer, ⟨name, args, none⟩, .missing⟩ ts = some r ∧
    r.outer = outer ∧ r.level.name = name ∧ ∃ e, r.whole? = some e ∧
      r.level.args ++ [e] = args ++ es

theorem isFactor_word (source : String) : IsFactor [⟨.word, source⟩] (.word source) :=
  fun _ _ => ⟨.name source, rfl, rfl⟩

theorem isFactor_number (source : String) : IsFactor [⟨.number, source⟩] (.number source) :=
  fun _ _ => ⟨.done (.number source), rfl, rfl⟩

theorem IsFactor.asJson (h : IsFactor ts e) :
    IsFactor (ts ++ [⟨.word, "AS"⟩, ⟨.word, "JSON"⟩]) (.asJson e) := by
  intro outer level
  obtain ⟨operand, hrun, he⟩ := h outer level
  refine ⟨.done (.asJson e), ?_, rfl⟩
  rw [Reader.run_append, hrun, Option.bind_some]
  cases operand with
  | missing | typed e => cases he
  | name source | done e =>
    cases he
    rfl

theorem IsFactor.isArguments (h : IsFactor ts e) : IsArguments ts [e] := by
  intro outer name args
  obtain ⟨operand, hrun, he⟩ := h outer ⟨name, args, none⟩
  exact ⟨_, hrun, rfl, rfl, e, by simp [Reader.whole?, he], rfl⟩

theorem IsFactor.sum (h : IsFactor ts e) (h' : IsFactor us f) :
    IsArguments (ts ++ ⟨.mark, "+"⟩ :: us) [.sum e f] := by
  intro outer name args
  obtain ⟨left, hleft, he⟩ := h outer ⟨name, args, none⟩
  obtain ⟨right, hright, hf⟩ := h' outer ⟨name, args, some e⟩
  refine ⟨⟨outer, ⟨name, args, some e⟩, right⟩, ?_, rfl, rfl, .sum e f,
    by simp [Reader.whole?, hf], rfl⟩
  rw [Reader.run_append, hleft, Option.bind_some, Reader.run]
  simp [Reader.step, Reader.whole?, he, hright]

theorem IsArguments.append (h : IsArguments ts es) (h' : IsArguments us fs) :
    IsArguments (ts ++ ⟨.mark, ","⟩ :: us) (es ++ fs) := by
  intro outer name args
  obtain ⟨r, hrun, rfl, rfl, e, he, hargs⟩ := h outer name args
  obtain ⟨r', hrun', houter, hname, f, hf, hargs'⟩ := h' r.outer r.level.name (args ++ es)
  refine ⟨r', ?_, houter, hname, f, hf, by rw [hargs', List.append_assoc]⟩
  rw [Reader.run_append, hrun, Option.bind_some, Reader.run]
  simp [Reader.step, he, hargs, hrun']

theorem IsArguments.call (h : IsArguments ts es) (name : String) :
    IsFactor (⟨.word, name⟩ :: ⟨.mark, "("⟩ :: ts ++ [⟨.mark, ")"⟩]) (.call name es) := by
  intro outer level
  obtain ⟨r, hrun, houter, hname, e, he, hargs⟩ := h (level :: outer) name []
  refine ⟨.done (.call name es), ?_, rfl⟩
  have hargs? : r.args? = some es := by
    have hoperand : r.operand ≠ .missing := by
      intro hmissing
      simp [Reader.whole?, hmissing, Operand.term?] at he
    rw [List.nil_append] at hargs
    unfold Reader.args?
    split
    · next hmissing _ => exact absurd hmissing hoperand
    · rw [he, Option.map_some, hargs]
  have hopen : Reader.run ⟨outer, level, .missing⟩ (⟨.word, name⟩ :: ⟨.mark, "("⟩ :: ts ++
      [⟨.mark, ")"⟩]) = (Reader.run ⟨level :: outer, ⟨name, [], none⟩, .missing⟩ ts).bind
        fun r => r.run [⟨.mark, ")"⟩] := Reader.run_append _ _ _
  rw [hopen, hrun, Option.bind_some, Reader.run_singleton, Reader.step, houter]
  simp [hargs?, hname]

theorem isFactor_call_nil (name : String) :
    IsFactor [⟨.word, name⟩, ⟨.mark, "("⟩, ⟨.mark, ")"⟩] (.call name []) :=
  fun _ _ => ⟨.done (.call name []), rfl, rfl⟩

theorem IsArguments.read? (h : IsArguments ts [e]) : read? ts = some e := by
  obtain ⟨r, hrun, houter, -, f, hf, hargs⟩ := h [] "" []
  have hlast : r.level.args = [] ∧ f = e := by
    cases hlevel : r.level.args with
    | nil => simpa [hlevel] using hargs
    | cons g gs => simp [hlevel] at hargs
  have hstart : Reader.start.run ts = some r := hrun
  rw [Term.read?, hstart, Option.bind_some, houter, hlast.1, ← hlast.2]
  exact hf

end Term

end Sql

end DocStore
