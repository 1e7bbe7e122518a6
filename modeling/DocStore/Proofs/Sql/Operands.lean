import DocStore.Proofs.Sql.Clear
import DocStore.Proofs.Sql.Reading

/-!
# Templates inside conditions

A template that belongs to one operand of a condition opens and closes parentheses in pairs.  Its
parts are put together from left to right with the number of open parentheses behind each of them
(`Template.Closes`), and what closes all is one operand (`Template.Closes.isPrimary`).  Operands and
groups are connected by `AND` and `OR` (`Template.isConjunction_join`,
`Template.isDisjunction_join`), and a group is put in parentheses (`Template.isConjunction_group`).

The text of a clear template with numbered placeholders has the tokens of the template, each
placeholder being a word (`Template.solidTokens?_print`).
-/

namespace DocStore

namespace Sql

/-- The tokens of a text without its blanks; none if it has no tokens. -/
def solid (s : String) : List Token := (solidTokens? s).getD []

/-- The manner of templates in which all tokens of the texts pass a test. -/
def Manner.ofTokens (test : Token → Bool) : Manner Unit where
  text _ s := (solid s).all test
  slot _ := true
  behind _ _ := ()
  least := ()
  text_of_least _ _ h := ⟨h, .inl rfl⟩
  slot_of_least _ h := h

/-- Placeholders that are written as tokens of an operand. -/
def Operands (g : Nat → Token) : Prop := ∀ n, (g n).part = .operand

namespace Template

/-- The tokens of a template without blanks, where placeholder `n` is written as the token `g n`. -/
def solidTokens (g : Nat → Token) : Template → List Token
  | [] => []
  | .text s :: t => solid s ++ solidTokens g t
  | .slot n :: t => g n :: solidTokens g t
  | .wide n :: t => g n :: solidTokens g t

variable {g : Nat → Token} {t u : Template} {parts : List Template} {d : Option Nat} {s : String}

/-- The tokens of a template are those of its texts, and what stands for its placeholders. -/
theorem Fits.mem_solidTokens {test : Token → Bool} (h : Fits (.ofTokens test) () t) {token : Token}
    (htoken : token ∈ solidTokens g t) : test token = true ∨ ∃ n, token = g n := by
  induction t with
  | nil => cases htoken
  | cons p t ih =>
    cases p with
    | text s =>
      obtain ⟨hs, ht⟩ := h
      rcases List.mem_append.1 htoken with htoken | htoken
      · exact .inl (List.all_eq_true.1 hs token htoken)
      · exact ih ht htoken
    | slot n =>
      rcases List.mem_cons.1 htoken with rfl | htoken
      · exact .inr ⟨n, rfl⟩
      · exact ih h.2 htoken
    | wide n => exact h.elim

@[simp] theorem solidTokens_append (t u : Template) :
    solidTokens g (t ++ u) = solidTokens g t ++ solidTokens g u := by
  induction t with
  | nil => rfl
  | cons p t ih => cases p <;> simp [solidTokens, ih]

@[simp] theorem solidTokens_sql_nil : solidTokens g (sql []) = [] := rfl

@[simp] theorem solidTokens_sql_cons (t : Template) (parts : List Template) :
    solidTokens g (sql (t :: parts)) = solidTokens g t ++ solidTokens g (sql parts) := by
  simp [sql]

@[simp] theorem solidTokens_text (s : String) : solidTokens g [.text s] = solid s := by
  simp [solidTokens]

/-- No placeholder is too wide for a machine word. -/
def Narrow (t : Template) : Prop := ∀ n, Piece.wide n ∉ t

theorem Within.narrow {lo hi : Nat} (h : t.Within lo hi) : t.Narrow := fun _ hn => h _ hn

theorem solidTokens_shift (h : t.Narrow) (k : Nat) :
    solidTokens g (t.shift k) = solidTokens (fun n => g (n + k)) t := by
  induction t with
  | nil => rfl
  | cons p t ih =>
    have ht : Narrow t := fun n hn => h n (List.mem_cons_of_mem _ hn)
    cases p with
    | text s => exact congrArg (solid s ++ ·) (ih ht)
    | slot n => exact congrArg (g (n + k) :: ·) (ih ht)
    | wide n => exact absurd List.mem_cons_self (h n)

/-! ### Templates inside one operand -/

/-- The number of open parentheses behind a template that belongs to one operand. -/
def depth : Option Nat → Template → Option (Option Nat)
  | d, [] => some d
  | d, .text s :: t => (runDepth d (solid s)).bind fun d => depth d t
  | d, .slot _ :: t => depth (some (d.getD 0)) t
  | d, .wide _ :: t => depth (some (d.getD 0)) t

theorem stepDepth_of_operand {t : Token} (h : t.part = .operand) (d : Option Nat) :
    stepDepth d t = some (some (d.getD 0)) := by
  rcases d with - | (- | depth) <;> simp [stepDepth, h]

theorem runDepth_solidTokens (hg : Operands g) (d : Option Nat) (t : Template) :
    runDepth d (solidTokens g t) = depth d t := by
  induction t generalizing d with
  | nil => rfl
  | cons p t ih =>
    cases p with
    | text s =>
      rw [solidTokens, runDepth_append, depth]
      exact congrArg _ (funext fun d => ih d)
    | slot n | wide n =>
      rw [solidTokens, runDepth, stepDepth_of_operand (hg n), Option.bind_some, ih, depth]

theorem depth_append (d : Option Nat) (t u : Template) :
    depth d (t ++ u) = (depth d t).bind fun d => depth d u := by
  induction t generalizing d with
  | nil => rfl
  | cons p t ih =>
    cases p with
    | text s =>
      rw [List.cons_append, depth, depth]
      cases runDepth d (solid s) with
      | none => rfl
      | some d => exact ih d
    | slot n | wide n => exact ih _

/-- The rest of an operand: behind it all parentheses are closed. -/
def Closes (d : Option Nat) (t : Template) : Prop := depth d t = some (some 0)

/-- A part of an operand that may stand anywhere in it, or be the whole of it. -/
def Neutral (t : Template) : Prop := ∀ d, depth d t = some (some (d.getD 0))

/-- A part of an operand that may stand between parentheses. -/
def Inner (t : Template) : Prop := ∀ k, depth (some (k + 1)) t = some (some (k + 1))

theorem Neutral.inner (h : Neutral t) : Inner t := fun k => h (some (k + 1))

theorem neutral_slot (n : Nat) : Neutral (slot n) := fun _ => rfl

/-! Operands that are put together, read from left to right, with the number of open parentheses
behind each text. -/

namespace Closes

theorem nil : Closes (some 0) (sql []) := rfl

theorem text (k : Nat) (hs : runDepth d (solid s) = some (some k))
    (h : Closes (some k) (sql parts)) : Closes d (sql ([.text s] :: parts)) := by
  show depth d ([.text s] ++ sql parts) = _
  rw [List.singleton_append, depth, hs]
  exact h

theorem part (ht : Neutral t) (h : Closes (some (d.getD 0)) (sql parts)) :
    Closes d (sql (t :: parts)) := by
  show depth d (t ++ sql parts) = _
  rw [depth_append, ht d]
  exact h

theorem prepend (ht : Closes d t) (h : Closes (some 0) (sql parts)) :
    Closes d (sql (t :: parts)) := by
  show depth d (t ++ sql parts) = _
  rw [depth_append, ht]
  exact h

theorem inner {k : Nat} (ht : Inner t) (h : Closes (some (k + 1)) (sql parts)) :
    Closes (some (k + 1)) (sql (t :: parts)) := by
  show depth _ (t ++ sql parts) = _
  rw [depth_append, ht k]
  exact h

end Closes

theorem inner_join {separator : String} (hs : ∀ k, runDepth (some (k + 1)) (solid separator) =
    some (some (k + 1))) (h : ∀ t ∈ parts, Inner t) : Inner (join separator parts) := by
  induction parts with
  | nil => exact fun _ => rfl
  | cons t rest ih =>
    have ht := h t List.mem_cons_self
    have hrest := ih fun u hu => h u (List.mem_cons_of_mem _ hu)
    cases rest with
    | nil => exact ht
    | cons u rest =>
      intro k
      rw [join_cons_cons, depth_append, ht k, Option.bind_some, depth, hs k]
      exact hrest k

/-! ### Operands and groups -/

/-- The template is one operand or one group. -/
def IsPrimary (g : Nat → Token) (t : Template) : Prop :=
  ∃ e, IsConjunction (solidTokens g t) [e]

theorem Closes.isPrimary (hg : Operands g) (h : Closes none t) : IsPrimary g t :=
  ⟨_, isConjunction_of_runDepth (by rw [runDepth_solidTokens hg]; exact h)⟩

theorem IsPrimary.readPrimary (h : IsPrimary g t) :
    ∃ e, readPrimary (solidTokens g t) = some e ∧ IsConjunction (solidTokens g t) [e] := by
  obtain ⟨e, he⟩ := h
  exact ⟨e, he.readPrimary, he⟩

/-- Parentheses around conjunctions that are joined by `OR`. -/
theorem isConjunction_group {ess : List (List (Expr (List Token)))}
    (h : IsDisjunction (solidTokens g t) ess) :
    IsConjunction (solidTokens g (sql ["(", t, ")"])) [.disj (ess.map .conj)] := by
  have hopen : solid "(" = [⟨.mark, "("⟩] := by decide
  have hclose : solid ")" = [⟨.mark, ")"⟩] := by decide
  simpa [hopen, hclose] using h.group

theorem solidTokens_join_cons (separator : String) (t u : Template) (rest : List Template) :
    solidTokens g (join separator (t :: u :: rest)) =
      solidTokens g t ++ solid separator ++ solidTokens g (join separator (u :: rest)) := by
  rw [join_cons_cons, solidTokens_append, solidTokens, List.append_assoc]

/-- What is read from each of several templates is read from all of them in order, if texts can be
put together around the separator. -/
theorem joined {α : Type} {P : List Token → List α → Prop} {separator : String}
    (happend : ∀ {ts us es fs}, P ts es → P us fs → P (ts ++ solid separator ++ us) (es ++ fs))
    {ess : List (List α)} (hne : parts ≠ [])
    (h : List.Forall₂ (fun t es => P (solidTokens g t) es) parts ess) :
    P (solidTokens g (join separator parts)) ess.flatten := by
  induction h with
  | nil => exact absurd rfl hne
  | @cons t es rest ess ht hrest ih =>
    cases hrest with
    | nil => simpa [join] using ht
    | cons hu hrest =>
      rw [solidTokens_join_cons]
      exact happend ht (ih (List.cons_ne_nil _ _))

/-- Templates joined by `AND`. -/
theorem isConjunction_join {separator : String} (hsep : solid separator = [andToken])
    {ess : List (List (Expr (List Token)))} (hne : parts ≠ [])
    (h : List.Forall₂ (fun t es => IsConjunction (solidTokens g t) es) parts ess) :
    IsConjunction (solidTokens g (join separator parts)) ess.flatten :=
  joined (fun ht hu => by simpa [hsep] using ht.append hu) hne h

/-- Templates joined by `OR`. -/
theorem isDisjunction_join {separator : String} (hsep : solid separator = [orToken])
    {ess : List (List (Expr (List Token)))} (hne : parts ≠ [])
    (h : List.Forall₂ (fun t es => IsConjunction (solidTokens g t) es) parts ess) :
    IsDisjunction (solidTokens g (join separator parts)) ess := by
  have hsingle : List.Forall₂ (fun t ess => IsDisjunction (solidTokens g t) ess) parts
      (ess.map fun es => [es]) :=
    List.forall₂_map_right_iff.2 (h.imp fun _ _ ht => ht.isDisjunction)
  have hjoined : IsDisjunction (solidTokens g (join separator parts))
      (ess.map fun es => [es]).flatten :=
    joined (fun ht hu => by simpa [hsep] using ht.append hu) hne hsingle
  simpa [← List.flatMap_def] using hjoined

theorem exists_forall₂_of_isPrimary (h : ∀ t ∈ parts, IsPrimary g t) :
    ∃ es : List (Expr (List Token)),
      List.Forall₂ (fun t ess => IsConjunction (solidTokens g t) ess) parts
        (es.map fun e => [e]) := by
  induction parts with
  | nil => exact ⟨[], .nil⟩
  | cons t rest ih =>
    obtain ⟨e, he⟩ := h t List.mem_cons_self
    obtain ⟨es, hes⟩ := ih fun u hu => h u (List.mem_cons_of_mem _ hu)
    exact ⟨e :: es, .cons he hes⟩

/-! ### Numbered placeholders -/

/-- The token of a numbered placeholder. -/
def placeholder (n : Nat) : Token := ⟨.word, "$" ++ toString n⟩

theorem tokensFrom_word {cs : List Char} (h : ∀ c ∈ cs, isWordChar c = true) (read : List Char) :
    tokensFrom (.word read) cs = some [⟨.word, String.ofList (read.reverse ++ cs)⟩] := by
  induction cs generalizing read with
  | nil => simp [tokensFrom, Mode.finish]
  | cons c cs ih =>
    have hc := h c List.mem_cons_self
    have hcs := ih (fun d hd => h d (List.mem_cons_of_mem _ hd)) (c :: read)
    rw [tokensFrom]
    simpa [Mode.extend, hc] using hcs

theorem tokens?_placeholder (n : Nat) : tokens? ("$" ++ toString n) = some [placeholder n] := by
  have hdigits : ∀ c ∈ Nat.toDigits 10 n, isWordChar c = true := by
    intro c hc
    have hdigit : c.isDigit = true := Nat.isDigit_of_mem_toDigits (by omega) (by omega) hc
    simp [isWordChar, Char.isAlphanum, hdigit]
  have htext : ("$" ++ toString n).toList = '$' :: Nat.toDigits 10 n := by simp
  have hfirst : Mode.first '$' = .word ['$'] := by decide
  have hword := tokensFrom_word hdigits ['$']
  have hsource : String.ofList ('$' :: Nat.toDigits 10 n) = "$" ++ toString n := by
    rw [← htext, String.ofList_toList]
  rw [tokens?, htext, tokensFrom]
  simp only [Mode.extend, Mode.finish, hfirst, hword]
  simpa [placeholder] using hsource

theorem operands_placeholder : Operands placeholder := by
  intro n
  -- no mark and no keyword begins with a dollar sign
  have hne : ∀ s : String, s.toList.head? ≠ some '$' → "$" ++ toString n ≠ s := by
    rintro s hs rfl
    exact hs (by simp)
  have hand := hne "AND" (by decide)
  have hor := hne "OR" (by decide)
  simp only [placeholder, Token.part, Token.mk.injEq, hand, hor]
  simp

/-- **The text of a template has the template's tokens**, whatever tokens its placeholders are
written as. -/
theorem solidTokens?_fill {f : Nat → String} (hslot : ∀ n, tokens? (f n) = some [g n])
    (hblank : ∀ n, g n ≠ ⟨.mark, " "⟩) {free : Bool} (h : Clear free t) :
    solidTokens? (t.fill f) = some (solidTokens g t) := by
  have hfilter : ∀ u : Template, (u.flatMap (pieceTokens g)).filter
      (fun t => t != ⟨.mark, " "⟩) = solidTokens g u := by
    intro u
    induction u with
    | nil => rfl
    | cons p u ih =>
      rw [List.flatMap_cons, List.filter_append, ih]
      cases p with
      | text s =>
        -- the blanks of each text fall out on their own
        have hsolid : (pieceTokens g (.text s)).filter (fun t => t != ⟨.mark, " "⟩) =
            solid s := by
          rw [pieceTokens, solid, solidTokens?]
          cases tokens? s <;> rfl
        rw [hsolid, solidTokens]
      | slot n | wide n => simp [pieceTokens, solidTokens, hblank n]
  rw [solidTokens?, tokens?_fill hslot h, Option.map_some, hfilter]

/-- The text of a template with numbered placeholders. -/
theorem solidTokens?_print {free : Bool} (h : Clear free t) :
    solidTokens? t.print = some (solidTokens placeholder t) := by
  rw [print_eq_fill]
  exact solidTokens?_fill tokens?_placeholder (fun n => by simp [placeholder]) h

end Template

end Sql

end DocStore
