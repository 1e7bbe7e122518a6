import DocStore.Pattern

/-!
# Literal spans of patterns

A pattern is made of plain tokens, of literal spans, and of ends of spans where none is open
(`Pattern.Part`); its last span may lack its end (`Pattern.Source`).  Translating it goes part by
part: a plain token stays as it is, but for the class of word characters, an end of a span that is
not open is dropped, and a span becomes its characters, each with a backslash in front unless it is
a letter or a digit (`Pattern.literalize_text`).  Without these backslashes the span's text stands
there again (`Pattern.Span.unescaped_translated`).

Options that are flags are listed once each, in the order of their first use
(`Pattern.readOptions_flags`).
-/

namespace DocStore

namespace Pattern

/-! ### Parts of patterns -/

/-- A character that is no backslash, or a backslash with a character that neither begins nor ends
a span. -/
inductive Token where
  | char (c : Char) (plain : c ≠ '\\')
  | escape (c : Char) (plain : c ≠ 'Q' ∧ c ≠ 'E')

/-- The text of a literal span, which does not hold the end of one. -/
structure Span where
  chars : List Char
  endless : ¬ ['\\', 'E'] <:+: chars

/-- A part of a pattern. -/
inductive Part where
  | plain (t : Token)
  /-- The end of a span where none is open. -/
  | stray
  | span (s : Span)

/-- The parts of a pattern, and behind them the text of a span that is not ended, if there is
one. -/
structure Source where
  parts : List Part
  unended : Option Span

/-- What a token is in a pattern. -/
def Token.text : Token → List Char
  | .char c _ => [c]
  | .escape c _ => ['\\', c]

/-- What a token is translated to. -/
def Token.translated : Token → List Char
  | .char c _ => [c]
  | .escape c _ => if c = 'w' then "[0-9a-zA-Z]".toList else ['\\', c]

/-- What a span is translated to: all but letters and digits get a backslash. -/
def Span.translated (s : Span) : List Char :=
  s.chars.flatMap fun c => if c.isAlphanum then [c] else ['\\', c]

namespace Part

/-- What a part is in a pattern. -/
def text : Part → List Char
  | .plain t => t.text
  | .stray => ['\\', 'E']
  | .span s => '\\' :: 'Q' :: s.chars ++ ['\\', 'E']

/-- What a part is translated to. -/
def translated : Part → List Char
  | .plain t => t.translated
  | .stray => []
  | .span s => s.translated

end Part

/-- The text of parts. -/
def textOf (parts : List Part) : List Char := parts.flatMap Part.text

theorem textOf_cons (p : Part) (parts : List Part) : textOf (p :: parts) = p.text ++ textOf parts :=
  List.flatMap_cons

namespace Source

/-- The pattern. -/
def text (source : Source) : List Char :=
  textOf source.parts ++
    (source.unended.map fun s => '\\' :: 'Q' :: s.chars).getD []

/-- What the pattern is translated to. -/
def translated (source : Source) : List Char :=
  source.parts.flatMap Part.translated ++ (source.unended.map Span.translated).getD []

end Source

/-- The characters without the backslashes in front of them. -/
def unescaped : List Char → List Char
  | [] => []
  | '\\' :: c :: rest => c :: unescaped rest
  | c :: rest => c :: unescaped rest

/-- **The text of a span is read back from its translation.** -/
theorem Span.unescaped_translated (s : Span) : unescaped s.translated = s.chars := by
  have hchars : ∀ cs : List Char,
      unescaped (cs.flatMap fun c => if c.isAlphanum then [c] else ['\\', c]) = cs := by
    intro cs
    induction cs with
    | nil => rfl
    | cons c cs ih =>
      rw [List.flatMap_cons]
      by_cases hc : c.isAlphanum = true
      · have hslash : c ≠ '\\' := by
          rintro rfl
          exact absurd hc (by decide)
        simp [hc, unescaped, hslash, ih]
      · simp [hc, unescaped, ih]
  exact hchars s.chars

/-! ### Part by part -/

variable {c : Char} {rest s : List Char}

theorem literalize_char (hc : c ≠ '\\') (literal : Bool) (rest : List Char) :
    literalize literal (c :: rest) =
      (if literal then literalChar c else [c]) ++ literalize literal rest := by
  cases literal <;> simp [literalize, hc]

theorem literalize_escape (hc : c ≠ 'Q' ∧ c ≠ 'E') (rest : List Char) :
    literalize false ('\\' :: c :: rest) =
      (if c = 'w' then wordClass else ['\\', c]) ++ literalize false rest := by
  by_cases hw : c = 'w'
  · simp [literalize, hw]
  · simp [literalize, hc, hw]

theorem literalize_token (t : Token) (rest : List Char) :
    literalize false (t.text ++ rest) = t.translated ++ literalize false rest := by
  cases t with
  | char c hc => exact literalize_char hc false rest
  | escape c hc => exact literalize_escape hc rest

/-- Inside a span, a backslash that does not end it stands for itself. -/
theorem literalize_backslash (h : rest.head? ≠ some 'E') :
    literalize true ('\\' :: rest) = literalChar '\\' ++ literalize true rest := by
  cases rest with
  | nil => rfl
  | cons c rest =>
    have hc : c ≠ 'E' := fun heq => h (heq ▸ rfl)
    simp [literalize, hc]

/-- An open span is read up to its end, or to where something stands that a span goes on with. -/
theorem literalize_chars (hs : ¬ ['\\', 'E'] <:+: s) (hrest : rest.head? ≠ some 'E') :
    literalize true (s ++ rest) = s.flatMap literalChar ++ literalize true rest := by
  induction s with
  | nil => rfl
  | cons c s ih =>
    have hbehind : ¬ ['\\', 'E'] <:+: s :=
      fun hheld => hs (hheld.trans (List.suffix_cons c s).isInfix)
    rw [List.cons_append, List.flatMap_cons, List.append_assoc, ← ih hbehind]
    by_cases hc : c = '\\'
    · subst hc
      refine literalize_backslash fun hend => ?_
      cases s with
      | nil => exact hrest hend
      | cons d s =>
        obtain rfl : d = 'E' := Option.some.inj hend
        exact hs (List.prefix_append ['\\', 'E'] s).isInfix
    · exact literalize_char hc true _

theorem Span.flatMap_literalChar (s : Span) : s.chars.flatMap literalChar = s.translated := rfl

theorem literalize_part (p : Part) (rest : List Char) :
    literalize false (p.text ++ rest) = p.translated ++ literalize false rest := by
  cases p with
  | plain t => exact literalize_token t rest
  | stray => rfl
  | span s =>
    have hopen : literalize false ((Part.span s).text ++ rest) =
        literalize true (s.chars ++ ('\\' :: 'E' :: rest)) := by
      simp [Part.text, literalize]
    rw [hopen, literalize_chars s.endless (by simp), s.flatMap_literalChar]
    rfl

theorem literalize_parts (parts : List Part) (rest : List Char) :
    literalize false (textOf parts ++ rest) =
      parts.flatMap Part.translated ++ literalize false rest := by
  induction parts with
  | nil => rfl
  | cons p parts ih =>
    rw [textOf_cons, List.append_assoc, literalize_part, ih, List.flatMap_cons, List.append_assoc]

/-- **A pattern is translated part by part.** -/
theorem literalize_text (source : Source) :
    literalize false source.text = source.translated := by
  rw [Source.text, literalize_parts, Source.translated]
  cases source.unended with
  | none => rfl
  | some s =>
    have hopen : literalize false ('\\' :: 'Q' :: s.chars) = literalize true (s.chars ++ []) := by
      simp [literalize]
    refine congrArg _ (hopen.trans ?_)
    rw [literalize_chars s.endless (by simp), s.flatMap_literalChar]
    exact List.append_nil _

/-! ### Options -/

/-- The group of inline flags; nothing if there are none. -/
def flagGroup (flags : List Char) : List Char :=
  if flags.isEmpty then [] else '(' :: '?' :: flags ++ [')']

/-- Flags are read in the order of their first use, without those that were read before. -/
theorem readOptions_flags {cs : List Char} (h : ∀ c ∈ cs, c = 'm' ∨ c = 's') (extended : Bool)
    (flags : List Char) :
    readOptions ⟨extended, flags⟩ cs =
      .ok ⟨extended, flags ++ (cs.filter fun c => !flags.contains c).eraseDups⟩ := by
  induction cs generalizing flags with
  | nil => simp [readOptions]
  | cons c cs ih =>
    obtain ⟨hc, hcs⟩ := List.forall_mem_cons.1 h
    have hx : c ≠ 'x' := by rcases hc with rfl | rfl <;> decide
    rw [readOptions, if_neg hx, if_pos hc]
    by_cases hmem : flags.contains c = true
    · simp only [hmem, if_true, ih hcs, List.filter_cons]
      simp
    · rw [if_neg hmem, ih hcs, List.filter_cons_of_pos (by simpa using hmem),
        List.eraseDups_cons, List.filter_filter]
      have hboth : ∀ d, (!(flags ++ [c]).contains d) = (!(d == c) && !flags.contains d) := by
        intro d
        by_cases hd : d = c <;> simp [hd]
      simp only [hboth, List.append_assoc, List.singleton_append]

/-- What the options say, and then the pattern. -/
theorem translate_eq (pattern : List Char) (options : Option String) :
    translate (String.ofList pattern) options =
      (readOptions ⟨false, []⟩ (options.getD "").toList).map fun o =>
        String.ofList (flagGroup o.flags ++
          literalize false (if o.extended then stripExtended false pattern else pattern)) := by
  rw [translate, String.toList_ofList]
  cases readOptions ⟨false, []⟩ (options.getD "").toList with
  | error fault => rfl
  | ok o =>
    refine congrArg Except.ok (congrArg String.ofList ?_)
    unfold flagGroup
    cases o.flags.isEmpty <;> simp

/-- **Literal spans stay literal.**  With flags as options, a pattern is translated to the group of
its flags, each once and in the order of first use, with the translations of its parts behind it.
The text of every span can be read back from its translation. -/
theorem translate_text (source : Source) {options : Option String}
    (h : ∀ c ∈ (options.getD "").toList, c = 'm' ∨ c = 's') :
    translate (String.ofList source.text) options =
        .ok (String.ofList
          (flagGroup (options.getD "").toList.eraseDups ++ source.translated)) ∧
      ∀ s : Span, unescaped s.translated = s.chars := by
  refine ⟨?_, Span.unescaped_translated⟩
  have hread := readOptions_flags h false []
  have hall : ((options.getD "").toList.filter fun c => !([] : List Char).contains c) =
      (options.getD "").toList := List.filter_eq_self.2 fun _ _ => rfl
  rw [hall, List.nil_append] at hread
  rw [translate_eq, hread, ← literalize_text]
  rfl

/-- A pattern with a span that ends in a backslash, an escaped backslash in front of a letter, an
end where no span is open, a class, and a span inside which another one seems to begin. -/
def mixedSource : Source where
  parts := [.plain (.char '^' (by decide)), .span ⟨['a', '.', '\\'], by decide⟩,
    .plain (.escape '\\' (by decide)), .plain (.char 'Q' (by decide)), .stray,
    .plain (.escape 'w' (by decide))]
  unended := some ⟨['\\', 'Q', ')'], by decide⟩

theorem translate_text_mixedSource :
    (∀ c ∈ ((some "smms").getD "").toList, c = 'm' ∨ c = 's') ∧
      String.ofList mixedSource.text = r"^\Qa.\\E\\Q\E\w\Q\Q)" ∧
      translate r"^\Qa.\\E\\Q\E\w\Q\Q)" (some "smms") =
        .ok r"(?sm)^a\.\\\\Q[0-9a-zA-Z]\\Q\)" := by
  have hflags : ∀ c ∈ ((some "smms").getD "").toList, c = 'm' ∨ c = 's' := by simp
  have htext : String.ofList mixedSource.text = r"^\Qa.\\E\\Q\E\w\Q\Q)" := by decide +kernel
  have htranslated := (translate_text mixedSource hflags).1
  rw [htext] at htranslated
  exact ⟨hflags, htext, htranslated.trans (congrArg Except.ok (by decide +kernel))⟩

end Pattern

end DocStore
