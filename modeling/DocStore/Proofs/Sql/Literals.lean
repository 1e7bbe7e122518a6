import DocStore.Proofs.Number.Digits
import DocStore.Proofs.Sql.Scanning
import DocStore.Sql.Statement

/-!
# Parameters as tokens

What stands for a parameter in SQL text is one token (`Param.tokens?_render`): a name or a string
whose quotes hold exactly the parameter's characters, whatever they are, a number, or one of the
words `TRUE`, `FALSE` and `NULL`.  Only raw fragments may be anything.
-/

namespace DocStore

namespace Sql

/-! ### Names and strings -/

/-- **A quoted name is one token with the name as its content.** -/
theorem tokens?_quoteName (name : String) :
    tokens? (quoteName name) = some [⟨.name name, quoteName name⟩] := by
  have hfirst := (firstToken?_quoteName_iff name "").2 (by decide)
  rw [String.append_empty] at hfirst
  exact tokens?_of_firstToken? hfirst

/-- **A quoted string is one token with the string as its content.** -/
theorem tokens?_quoteString (s : String) :
    tokens? (quoteString s) = some [⟨.string s, quoteString s⟩] := by
  have hfirst := (firstToken?_quoteString_iff s "").2 (by decide)
  rw [String.append_empty] at hfirst
  exact tokens?_of_firstToken? hfirst

/-! ### Numbers -/

theorem goesOn_of_isDigit {read : List Char} {c : Char} (h : c.isDigit = true) :
    Mode.goesOn read c = true := by
  simp [Mode.goesOn, h]

theorem tokensFrom_number_plain {cs rest : List Char} (h : Decimal.IsPlain cs) (read : List Char) :
    tokensFrom (.number read) (cs ++ rest) = tokensFrom (.number (cs.reverse ++ read)) rest := by
  induction cs generalizing read with
  | nil => rfl
  | cons c cs ih =>
    have hc : Mode.goesOn read c = true := by
      rcases h c List.mem_cons_self with hc | rfl
      · exact goesOn_of_isDigit hc
      · simp [Mode.goesOn]
    have hcs : Decimal.IsPlain cs := fun d hd => h d (List.mem_cons_of_mem _ hd)
    simp [tokensFrom, Mode.extend, hc, ih hcs]

theorem not_isExponentMark {c : Char} (h : c.isDigit = true ∨ c = '.') :
    isExponentMark c = false := by
  rcases h with h | rfl
  · simp only [isExponentMark, Bool.or_eq_false_iff, beq_eq_false_iff_ne]
    constructor <;> (rintro rfl; simp at h)
  · rfl

/-- A number may end behind digits and points, and in front of them if no exponent has begun. -/
theorem tokensFrom_number_end {cs : List Char} (h : Decimal.IsPlain cs) (read : List Char)
    (hend : cs ≠ [] ∨ read.head?.any isExponentMark = false) :
    tokensFrom (.number read) cs = some [⟨.number, String.ofList (read.reverse ++ cs)⟩] := by
  induction cs generalizing read with
  | nil =>
    have hread : read.head?.any isExponentMark = false := by simpa using hend
    simp [tokensFrom, Mode.finish, hread]
  | cons c cs ih =>
    have hc := h c List.mem_cons_self
    have hcs : Decimal.IsPlain cs := fun d hd => h d (List.mem_cons_of_mem _ hd)
    have hstep : tokensFrom (.number read) ([c] ++ cs) = tokensFrom (.number ([c] ++ read)) cs :=
      tokensFrom_number_plain (by simpa [Decimal.IsPlain]) read
    have hmark : (c :: read).head?.any isExponentMark = false := not_isExponentMark hc
    rw [← List.singleton_append, hstep, List.singleton_append, ih hcs _ (.inr hmark)]
    simp

theorem tokensFrom_number_exponent (read : List Char) (e : Int) :
    tokensFrom (.number read) (Decimal.exponentPart e) =
      some [⟨.number, String.ofList (read.reverse ++ Decimal.exponentPart e)⟩] := by
  have hdigits : Decimal.IsPlain (Nat.toDigits 10 e.natAbs) :=
    Decimal.isPlain_of_isDigit fun c hc => Nat.isDigit_of_mem_toDigits (by omega) (by omega) hc
  have hsign : ∀ c, c = '-' ∨ c = '+' →
      tokensFrom (.number read) ('e' :: c :: Nat.toDigits 10 e.natAbs) =
        some [⟨.number, String.ofList (read.reverse ++ 'e' :: c :: Nat.toDigits 10 e.natAbs)⟩] := by
    intro c hc
    have hmark : Mode.goesOn read 'e' = true := by simp [Mode.goesOn, isExponentMark]
    have hbehind : Mode.goesOn ('e' :: read) c = true := by
      rcases hc with rfl | rfl <;> simp [Mode.goesOn, isExponentMark]
    have hrest := tokensFrom_number_end hdigits (c :: 'e' :: read) (.inl Nat.toDigits_ne_nil)
    simp [tokensFrom, Mode.extend, hmark, hbehind, hrest]
  unfold Decimal.exponentPart
  split
  · exact hsign '-' (.inl rfl)
  · exact hsign '+' (.inr rfl)

theorem tokensFrom_number {first : Char} {cs : List Char} (h : Decimal.IsUnsigned (first :: cs))
    (read : List Char) :
    tokensFrom (.number (first :: read)) cs =
      some [⟨.number, String.ofList (read.reverse ++ first :: cs)⟩] := by
  obtain ⟨d, plain, exponent, hcs, hd, hplain, hexponent⟩ := h
  obtain ⟨rfl, rfl⟩ := List.cons.inj hcs
  rcases hexponent with rfl | ⟨e, rfl⟩
  · have hmark : (first :: read).head?.any isExponentMark = false := not_isExponentMark (.inl hd)
    simpa using tokensFrom_number_end hplain _ (.inr hmark)
  · rw [tokensFrom_number_plain hplain, tokensFrom_number_exponent]
    simp

/-- **The text of a number is one token.** -/
theorem tokens?_of_isNumberText {s : String} (h : Decimal.IsNumberText s.toList) :
    tokens? s = some [⟨.number, s⟩] := by
  have hfirst : ∀ {c : Char}, c.isDigit = true → Mode.first c = .number [c] := by
    intro c hc
    have hname : c ≠ backquote := by rintro rfl; simp [backquote] at hc
    have hquote : c ≠ quoteMark := by rintro rfl; simp [quoteMark] at hc
    simp [Mode.first, hname, hquote, hc]
  rw [tokens?]
  rcases h with h | ⟨unsigned, hs, h⟩
  · obtain ⟨c, cs, hcs, hc⟩ := h.exists_cons
    rw [hcs] at h
    have hread := tokensFrom_number h []
    rw [List.reverse_nil, List.nil_append, ← hcs, String.ofList_toList] at hread
    rw [hcs, tokensFrom]
    simp [Mode.extend, Mode.finish, hfirst hc, hread]
  · obtain ⟨c, cs, rfl, hc⟩ := h.exists_cons
    have hread := tokensFrom_number h ['-']
    rw [List.reverse_singleton, List.singleton_append, ← hs, String.ofList_toList] at hread
    have hsign : Mode.first '-' = .mark '-' := rfl
    rw [hs, tokensFrom]
    simp [Mode.extend, Mode.finish, hsign, tokensFrom, hc, hread]

/-! ### Parameters -/

namespace Param

/-- The kind of token that stands for a parameter; a raw fragment has none.  An array or an object
is a string that holds its compact text. -/
def kind? : Param → Option TokenKind
  | .ident name => some (.name name)
  | .value (.str s) => some (.string s)
  | .value (.arr items) => some (.string (Json.arr items).compact)
  | .value (.obj entries) => some (.string (Json.obj entries).compact)
  | .value (.num n) => some (if n.isFinite then .number else .word)
  | .value .null | .value (.bool _) => some .word
  | .json v => some (.string v.compact)
  | .raw _ => none

/-- **A parameter is one token.** -/
theorem tokens?_render {p : Param} {kind : TokenKind} (h : p.kind? = some kind) :
    tokens? p.render = some [⟨kind, p.render⟩] := by
  cases p with
  | ident name =>
    cases h
    exact tokens?_quoteName name
  | json v =>
    cases h
    exact tokens?_quoteString v.compact
  | raw fragment => cases h
  | value v =>
    cases v with
    | null =>
      cases h
      decide
    | bool b =>
      cases h
      cases b <;> decide
    | num n =>
      cases h
      cases hn : n.isFinite with
      | true => exact tokens?_of_isNumberText (Number.isNumberText_text hn)
      | false =>
        cases n with
        | int value => cases hn
        | float x =>
          have hx : ¬ x.isFinite = true := by simpa [Number.isFinite] using hn
          have htext : (Param.value (.num (.float x))).render = "null" := by
            simp [render, literal, Number.text, hx]
          rw [htext]
          decide
    | str s =>
      cases h
      exact tokens?_quoteString s
    | arr items =>
      cases h
      exact tokens?_quoteString _
    | obj entries =>
      cases h
      exact tokens?_quoteString _

end Param

end Sql

end DocStore
