import DocStore.Sql.Quoting

/-!
# Tokens of SQL text

`tokens?` reads SQL text as the engine does: names between backquotes, in which a backquote is
written twice; strings between single quotes, in which a quote is written twice or escaped; numbers;
words; and every other character, blanks among them, as a mark of its own.  It fails on text that
ends inside quotes.

A token ends where the next character cannot belong to it.  So text that stands in front of a
character which no token goes on with is read by itself: reading and appending commute at such a
boundary (`tokensFrom_append`).
-/

namespace DocStore

namespace Sql

/-- What a token is; names and strings with what their quotes hold. -/
inductive TokenKind where
  | mark
  | word
  | number
  | name (content : String)
  | string (content : String)
  deriving DecidableEq, Repr

/-- A token with its text. -/
structure Token where
  kind : TokenKind
  source : String
  deriving DecidableEq, Repr

/-- A character of a word.  Everything outside ASCII counts as a letter. -/
def isWordChar (c : Char) : Bool :=
  c.isAlphanum || c == '_' || c == '$' || decide (0x80 ≤ c.toNat)

/-- The mark of an exponent. -/
def isExponentMark (c : Char) : Bool := c == 'e' || c == 'E'

/-- A character that no token goes on with, whatever the token is. -/
def isApart (c : Char) : Bool := !isWordChar c && c != '.' && c != backquote && c != quoteMark

/-- The character that a backslash and `c` stand for, last character first.  The wildcards of
patterns keep their backslash. -/
def unescaped (c : Char) : List Char :=
  if c = '0' then ['\x00']
  else if c = 'b' then ['\x08']
  else if c = 'n' then ['\n']
  else if c = 'r' then ['\r']
  else if c = 't' then ['\t']
  else if c = 'Z' then ['\x1a']
  else if c = '%' ∨ c = '_' then [c, '\\']
  else [c]

/-- Where the reader stands: in front of everything, or behind the beginning of a token.  `read`
is the text of the token so far and `content` what its quotes hold, both with the last character
first. -/
inductive Mode where
  | start
  | mark (c : Char)
  | word (read : List Char)
  | number (read : List Char)
  | name (read content : List Char)
  /-- Behind a backquote that ends the name, unless another one follows. -/
  | nameEnd (read content : List Char)
  | string (read content : List Char)
  /-- Behind a backslash in a string. -/
  | escape (read content : List Char)
  /-- Behind a quote that ends the string, unless another one follows. -/
  | stringEnd (read content : List Char)
  deriving DecidableEq, Repr

namespace Mode

/-- The first character of a token. -/
def first (c : Char) : Mode :=
  if c = backquote then .name [c] []
  else if c = quoteMark then .string [c] []
  else if c.isDigit then .number [c]
  else if isWordChar c then .word [c]
  else .mark c

/-- A character that goes on with a number: a digit, a point, an exponent mark, or a sign behind
one. -/
def goesOn (read : List Char) (c : Char) : Bool :=
  c.isDigit || c == '.' || isExponentMark c ||
    ((c == '+' || c == '-') && read.head?.any isExponentMark)

/-- The token goes on with a character; `none` if the character begins another one. -/
def extend : Mode → Char → Option Mode
  | .start, _ => none
  | .mark m, c => if m = '-' ∧ c.isDigit then some (.number [c, m]) else none
  | .word read, c => if isWordChar c then some (.word (c :: read)) else none
  | .number read, c => if goesOn read c then some (.number (c :: read)) else none
  | .name read content, c =>
    some (if c = backquote then .nameEnd (c :: read) content else .name (c :: read) (c :: content))
  | .nameEnd read content, c =>
    if c = backquote then some (.name (c :: read) (c :: content)) else none
  | .string read content, c =>
    some (if c = quoteMark then .stringEnd (c :: read) content
      else if c = '\\' then .escape (c :: read) content
      else .string (c :: read) (c :: content))
  | .escape read content, c => some (.string (c :: read) (unescaped c ++ content))
  | .stringEnd read content, c =>
    if c = quoteMark then some (.string (c :: read) (c :: content)) else none

/-- The token that ends here, if one can. -/
def finish : Mode → Option (List Token)
  | .start => some []
  | .mark c => some [⟨.mark, String.singleton c⟩]
  | .word read => some [⟨.word, String.ofList read.reverse⟩]
  | .number read =>
    if read.head?.any isExponentMark then none
    else some [⟨.number, String.ofList read.reverse⟩]
  | .nameEnd read content =>
    some [⟨.name (String.ofList content.reverse), String.ofList read.reverse⟩]
  | .stringEnd read content =>
    some [⟨.string (String.ofList content.reverse), String.ofList read.reverse⟩]
  | .name _ _ | .string _ _ | .escape _ _ => none

/-- No character goes on with what was read. -/
def isFree : Mode → Bool
  | .start => true
  | .mark c => c != '-'
  | _ => false

/-- The reader behind more characters. -/
def after : Mode → List Char → Mode
  | m, [] => m
  | m, c :: cs => after ((m.extend c).getD (first c)) cs

end Mode

/-- The tokens of the characters to come. -/
def tokensFrom : Mode → List Char → Option (List Token)
  | m, [] => m.finish
  | m, c :: cs =>
    match m.extend c with
    | some longer => tokensFrom longer cs
    | none => do
      let done ← m.finish
      let rest ← tokensFrom (.first c) cs
      some (done ++ rest)

/-- The tokens of a text. -/
def tokens? (s : String) : Option (List Token) := tokensFrom .start s.toList

example : tokens? "`a``b` <= 'it''s' + -1.5" =
    some [⟨.name "a`b", "`a``b`"⟩, ⟨.mark, " "⟩, ⟨.mark, "<"⟩, ⟨.mark, "="⟩, ⟨.mark, " "⟩,
      ⟨.string "it's", "'it''s'"⟩, ⟨.mark, " "⟩, ⟨.mark, "+"⟩, ⟨.mark, " "⟩,
      ⟨.number, "-1.5"⟩] := by
  decide

/-! ### Boundaries -/

namespace Mode

theorem extend_of_isFree {m : Mode} (h : m.isFree = true) (c : Char) : m.extend c = none := by
  cases m with
  | start => rfl
  | mark d =>
    have : d ≠ '-' := by simpa [isFree] using h
    simp [extend, this]
  | _ => simp [isFree] at h

theorem not_isDigit_of_isApart {c : Char} (h : isApart c = true) : c.isDigit = false := by
  simp only [isApart, isWordChar, Bool.and_eq_true, Bool.not_eq_true', Bool.or_eq_false_iff] at h
  have : c.isAlphanum = false := h.1.1.1.1.1.1
  simp only [Char.isAlphanum, Bool.or_eq_false_iff] at this
  exact this.2

theorem extend_of_isApart {m : Mode} {ts : List Token} (hm : m.finish = some ts) {c : Char}
    (hc : isApart c = true) : m.extend c = none := by
  have hdigit : c.isDigit = false := not_isDigit_of_isApart hc
  simp only [isApart, Bool.and_eq_true, Bool.not_eq_true', bne_iff_ne, ne_eq] at hc
  obtain ⟨⟨⟨hword, hpoint⟩, hname⟩, hquote⟩ := hc
  cases m with
  | start => rfl
  | mark d => simp [extend, hdigit]
  | word read => simp [extend, hword]
  | number read =>
    -- a sign goes on with a number only behind an exponent mark, where no number ends
    have hread : read.head?.any isExponentMark = false := by
      cases h : read.head?.any isExponentMark with
      | false => rfl
      | true => simp [finish, h] at hm
    have hmark : isExponentMark c = false := by
      simp only [isExponentMark, Bool.or_eq_false_iff, beq_eq_false_iff_ne]
      constructor <;> (rintro rfl; simp [isWordChar] at hword)
    simp [extend, goesOn, hdigit, hpoint, hmark, hread]
  | nameEnd read content => simp [extend, hname]
  | stringEnd read content => simp [extend, hquote]
  | name read content | string read content | escape read content => simp [finish] at hm

/-- Where a boundary lies: whatever was read before it, the reader starts anew behind it. -/
def Ends (m : Mode) (cs : List Char) : Prop := ∀ c ∈ cs.head?, m.extend c = none

theorem after_append (m : Mode) (cs ds : List Char) :
    m.after (cs ++ ds) = (m.after cs).after ds := by
  induction cs generalizing m with
  | nil => rfl
  | cons c cs ih => exact ih _

theorem after_of_ends {m : Mode} {c : Char} {cs : List Char} (h : m.Ends (c :: cs)) :
    m.after (c :: cs) = start.after (c :: cs) := by
  have hstart : start.extend c = none := rfl
  rw [after, after, h c rfl, hstart]

end Mode

theorem tokensFrom_of_ends {m : Mode} {cs : List Char} {done ts : List Token}
    (hm : m.finish = some done) (h : m.Ends cs) (hcs : tokensFrom .start cs = some ts) :
    tokensFrom m cs = some (done ++ ts) := by
  cases cs with
  | nil =>
    cases hcs
    simpa [tokensFrom] using hm
  | cons c cs =>
    obtain ⟨rest, hrest, hts⟩ := Option.bind_eq_some_iff.1
      (show (tokensFrom (.first c) cs).bind (fun rest => some ([] ++ rest)) = some ts from hcs)
    cases hts
    simp [tokensFrom, h c rfl, hm, hrest]

/-- **Reading and appending commute at a boundary.** -/
theorem tokensFrom_append {m : Mode} {cs ds : List Char} {ts us : List Token}
    (hcs : tokensFrom m cs = some ts) (hds : tokensFrom .start ds = some us)
    (h : (m.after cs).Ends ds) : tokensFrom m (cs ++ ds) = some (ts ++ us) := by
  induction cs generalizing m ts with
  | nil => exact tokensFrom_of_ends hcs h hds
  | cons c cs ih =>
    rw [List.cons_append, tokensFrom]
    rw [tokensFrom] at hcs
    rw [Mode.after] at h
    cases hextend : m.extend c with
    | some longer =>
      rw [hextend] at hcs h
      exact ih hcs h
    | none =>
      -- a token ends here, and the boundary stays where it is
      rw [hextend] at hcs h
      simp only [bind, Option.bind_eq_some_iff] at hcs ⊢
      obtain ⟨done, hdone, rest, hrest, hts⟩ := hcs
      cases hts
      exact ⟨done, hdone, rest ++ us, ih hrest h, by simp⟩

theorem finish_of_tokensFrom {m : Mode} {cs : List Char} {ts : List Token}
    (h : tokensFrom m cs = some ts) : ∃ last, (m.after cs).finish = some last := by
  induction cs generalizing m ts with
  | nil => exact ⟨ts, h⟩
  | cons c cs ih =>
    rw [tokensFrom] at h
    rw [Mode.after]
    cases hextend : m.extend c with
    | some longer =>
      rw [hextend] at h
      exact ih h
    | none =>
      rw [hextend] at h
      simp only [bind, Option.bind_eq_some_iff] at h
      obtain ⟨done, -, rest, hrest, -⟩ := h
      exact ih hrest

/-- A boundary lies behind text that leaves the reader free, and in front of a character that no
token goes on with. -/
theorem ends_of_tokensFrom {m : Mode} {cs ds : List Char} {ts : List Token}
    (hcs : tokensFrom m cs = some ts)
    (h : (m.after cs).isFree = true ∨ ∀ c ∈ ds.head?, isApart c = true) :
    (m.after cs).Ends ds := by
  intro c hc
  rcases h with h | h
  · exact Mode.extend_of_isFree h c
  · obtain ⟨last, hlast⟩ := finish_of_tokensFrom hcs
    exact Mode.extend_of_isApart hlast (h c hc)

end Sql

end DocStore
