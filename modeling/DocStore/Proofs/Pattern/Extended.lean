import DocStore.Proofs.Pattern.Spans

/-!
# Extended patterns

In an extended pattern blanks and comments count for nothing, unless they stand in a literal span.
What is left of the parts of a pattern is `Pattern.strip`: a comment ends with its line, or where a
span begins, and spans stay as they are.

`Pattern.stripExtended` goes through the text without regard to spans.  It leaves the same as
`strip` exactly if the spans are spared: no comment is open where a span begins, and no blank and no
number sign stands in a span without a backslash in front (`Pattern.stripExtended_textOf_iff`).  It
never leaves more, and where a span is not spared it leaves less.  So an extended pattern is
translated like the stripped one only if the first pass touches no span
(`Pattern.translate_extended`); a blank in a span gets lost (`Pattern.not_translated_stripped`).
-/

namespace DocStore

namespace Pattern

namespace Token

/-- The last character of a token. -/
def last : Token → Char
  | .char c _ => c
  | .escape c _ => c

/-- Whether a comment is open behind a token. -/
def opensComment (inComment : Bool) (t : Token) : Bool :=
  if inComment then t.last != '\n'
  else
    match t with
    | .char c _ => c == '#'
    | .escape _ _ => false

/-- Whether a token counts: it is in no comment and begins none, and it is no blank. -/
def counts (inComment : Bool) (t : Token) : Bool :=
  !inComment &&
    match t with
    | .char c _ => c != '#' && !Text.isBlank c
    | .escape _ _ => true

end Token

/-- The parts of an extended pattern that count. -/
def strip (inComment : Bool) : List Part → List Part
  | [] => []
  | .plain t :: rest =>
    if t.counts inComment then .plain t :: strip (t.opensComment inComment) rest
    else strip (t.opensComment inComment) rest
  | .stray :: rest => if inComment then strip true rest else .stray :: strip false rest
  | .span s :: rest => .span s :: strip false rest

/-- A blank or a number sign stands in a text, with no backslash in front. -/
def hasBare : List Char → Bool
  | [] => false
  | '\\' :: _ :: rest => hasBare rest
  | c :: rest => c == '#' || Text.isBlank c || hasBare rest

/-- No comment is open where a span begins, and no span has a bare blank or number sign. -/
def Spared (inComment : Bool) : List Part → Prop
  | [] => True
  | .plain t :: rest => Spared (t.opensComment inComment) rest
  | .stray :: rest => Spared inComment rest
  | .span s :: rest => inComment = false ∧ hasBare s.chars = false ∧ Spared false rest

variable {c : Char} {rest s : List Char} {parts : List Part}

/-! ### One part -/

theorem stripExtended_char (hc : c ≠ '\\') (inComment : Bool) (rest : List Char) :
    stripExtended inComment (c :: rest) =
      if inComment then stripExtended (c != '\n') rest
      else if c = '#' then stripExtended true rest
      else if Text.isBlank c then stripExtended false rest
      else c :: stripExtended false rest := by
  cases inComment <;> simp [stripExtended, hc]

theorem stripExtended_escape (inComment : Bool) (c : Char) (rest : List Char) :
    stripExtended inComment ('\\' :: c :: rest) =
      if inComment then stripExtended (c != '\n') rest
      else '\\' :: c :: stripExtended false rest := by
  cases inComment <;> simp [stripExtended]

theorem stripExtended_token (t : Token) (inComment : Bool) (rest : List Char) :
    stripExtended inComment (t.text ++ rest) =
      (if t.counts inComment then t.text else []) ++
        stripExtended (t.opensComment inComment) rest := by
  cases t with
  | char c hc =>
    have hstep := stripExtended_char hc inComment rest
    cases inComment with
    | true => exact hstep
    | false =>
      refine hstep.trans ?_
      by_cases hmark : c = '#'
      · simp [Token.counts, Token.opensComment, hmark]
      · have hopens : (c == '#') = false := by simpa using hmark
        by_cases hblank : Text.isBlank c = true
        · simp [Token.counts, Token.opensComment, hmark, hopens, hblank]
        · simp [Token.counts, Token.opensComment, Token.text, hmark, hopens, hblank]
  | escape c hc =>
    have hstep := stripExtended_escape inComment c rest
    cases inComment with
    | true => exact hstep
    | false => exact hstep

theorem stripExtended_end (inComment : Bool) (rest : List Char) :
    stripExtended inComment ('E' :: rest) =
      if inComment then stripExtended true rest else 'E' :: stripExtended false rest :=
  stripExtended_char (by decide) inComment rest

theorem hasBare_char (hc : c ≠ '\\') (s : List Char) :
    hasBare (c :: s) = (c == '#' || Text.isBlank c || hasBare s) := by
  simp [hasBare, hc]

/-- A span without bare characters is left as it is. -/
theorem stripExtended_chars (hs : hasBare s = false) (rest : List Char) :
    stripExtended false (s ++ '\\' :: 'E' :: rest) =
      s ++ '\\' :: 'E' :: stripExtended false rest := by
  induction s using hasBare.induct with
  | case1 => exact stripExtended_escape false 'E' rest
  | case2 c s ih =>
    rw [hasBare] at hs
    exact (stripExtended_escape false c _).trans (congrArg ('\\' :: c :: ·) (ih hs))
  | case3 c s hpair ih =>
    by_cases hc : c = '\\'
    · subst hc
      cases s with
      | nil =>
        -- the last backslash of the span makes a pair with the one that ends it
        exact (stripExtended_escape false '\\' _).trans
          (congrArg ('\\' :: '\\' :: ·) (stripExtended_end false rest))
      | cons d s => exact (hpair d s rfl rfl).elim
    · rw [hasBare_char hc, Bool.or_eq_false_iff, Bool.or_eq_false_iff] at hs
      obtain ⟨⟨hmark, hblank⟩, hs⟩ := hs
      rw [List.cons_append, stripExtended_char hc, ih hs]
      simp [hblank, ne_of_beq_false hmark]

/-- How much is left of an escaped character and of what follows it. -/
theorem length_stripExtended_escape {n : Nat} {lost : Bool}
    (hrest : ∀ inComment, (stripExtended inComment rest).length ≤ n)
    (hlost : (stripExtended false rest).length + lost.toNat ≤ n) (inComment : Bool) (c : Char) :
    (stripExtended inComment ('\\' :: c :: rest)).length + (inComment || lost).toNat ≤ n + 2 := by
  rw [stripExtended_escape]
  cases inComment with
  | true =>
    have hopen := hrest (c != '\n')
    simp only [if_true, Bool.true_or, Bool.toNat_true]
    omega
  | false =>
    simp only [Bool.false_eq_true, if_false, Bool.false_or, List.length_cons]
    omega

/-- How much is left of another character and of what follows it. -/
theorem length_stripExtended_char {n : Nat} {lost : Bool} (hc : c ≠ '\\')
    (hrest : ∀ inComment, (stripExtended inComment rest).length ≤ n)
    (hlost : (stripExtended false rest).length + lost.toNat ≤ n) (inComment : Bool) :
    (stripExtended inComment (c :: rest)).length +
        (inComment || (c == '#' || Text.isBlank c || lost)).toNat ≤ n + 1 := by
  rw [stripExtended_char hc]
  cases inComment with
  | true =>
    rw [if_pos rfl, Bool.true_or, Bool.toNat_true]
    exact Nat.succ_le_succ (hrest _)
  | false =>
    rw [if_neg Bool.false_ne_true, Bool.false_or]
    by_cases hmark : c = '#'
    · rw [if_pos hmark, hmark, beq_self_eq_true, Bool.true_or, Bool.true_or, Bool.toNat_true]
      exact Nat.succ_le_succ (hrest true)
    · rw [if_neg hmark, beq_false_of_ne hmark, Bool.false_or]
      cases hblank : Text.isBlank c with
      | true =>
        rw [if_pos rfl, Bool.true_or, Bool.toNat_true]
        exact Nat.succ_le_succ (hrest false)
      | false =>
        rw [if_neg Bool.false_ne_true, Bool.false_or, List.length_cons]
        omega

/-- How much is left of a span and of what follows it: less than there was if a comment is open in
front of the span, or if it has a bare character. -/
theorem length_stripExtended_chars {n : Nat}
    (hrest : ∀ inComment, (stripExtended inComment rest).length ≤ n) (inComment : Bool)
    (s : List Char) :
    (stripExtended inComment (s ++ '\\' :: 'E' :: rest)).length +
        (inComment || hasBare s).toNat ≤ n + 2 + s.length := by
  have hkept : (stripExtended false rest).length + false.toNat ≤ n := hrest false
  induction s using hasBare.induct generalizing inComment with
  | case1 => exact length_stripExtended_escape hrest hkept inComment 'E'
  | case2 c s ih =>
    have hbehind := fun inComment => Nat.le_of_add_right_le (ih inComment)
    exact length_stripExtended_escape hbehind (ih false) inComment c
  | case3 c s hpair ih =>
    by_cases hc : c = '\\'
    · subst hc
      cases s with
      | nil =>
        -- the last backslash makes a pair with the one that ends the span
        have hend := length_stripExtended_char (by decide : 'E' ≠ '\\') hrest hkept
        have hbehind := fun inComment => Nat.le_of_add_right_le (hend inComment)
        exact length_stripExtended_escape hbehind (hend false) inComment '\\'
      | cons d s => exact (hpair d s rfl rfl).elim
    · have hbehind := fun inComment => Nat.le_of_add_right_le (ih inComment)
      rw [hasBare_char hc]
      exact length_stripExtended_char hc hbehind (ih false) inComment

/-! ### All parts -/

theorem textOf_span (s : Span) (parts : List Part) :
    textOf (.span s :: parts) = '\\' :: 'Q' :: (s.chars ++ '\\' :: 'E' :: textOf parts) := by
  simp [textOf_cons, Part.text]

theorem stripExtended_plain (t : Token) (inComment : Bool) (parts : List Part) :
    stripExtended inComment (textOf (.plain t :: parts)) =
      (if t.counts inComment then t.text else []) ++
        stripExtended (t.opensComment inComment) (textOf parts) := by
  rw [textOf_cons]
  exact stripExtended_token t inComment _

theorem stripExtended_stray (inComment : Bool) (parts : List Part) :
    stripExtended inComment (textOf (.stray :: parts)) =
      (if !inComment then ['\\', 'E'] else []) ++ stripExtended inComment (textOf parts) := by
  rw [textOf_cons]
  refine (stripExtended_escape inComment 'E' _).trans ?_
  cases inComment <;> rfl

theorem stripExtended_span (s : Span) (inComment : Bool) (parts : List Part) :
    stripExtended inComment (textOf (.span s :: parts)) =
      (if !inComment then ['\\', 'Q'] else []) ++
        stripExtended inComment (s.chars ++ '\\' :: 'E' :: textOf parts) := by
  rw [textOf_span]
  refine (stripExtended_escape inComment 'Q' _).trans ?_
  cases inComment <;> rfl

theorem textOf_strip_plain (t : Token) (inComment : Bool) (parts : List Part) :
    textOf (strip inComment (.plain t :: parts)) =
      (if t.counts inComment then t.text else []) ++
        textOf (strip (t.opensComment inComment) parts) := by
  rw [strip]
  cases t.counts inComment <;> simp [textOf_cons, Part.text]

theorem textOf_strip_stray (inComment : Bool) (parts : List Part) :
    textOf (strip inComment (.stray :: parts)) =
      (if !inComment then ['\\', 'E'] else []) ++ textOf (strip inComment parts) := by
  cases inComment <;> simp [strip, textOf_cons, Part.text]

/-- A comment is not shorter if one is open before. -/
theorem Token.opensComment_mono (t : Token) {closed opened : Bool} (h : closed ≤ opened) :
    t.opensComment closed ≤ t.opensComment opened := by
  cases closed with
  | true =>
    obtain rfl : opened = true := h rfl
    exact Bool.le_refl _
  | false =>
    cases opened with
    | false => exact Bool.le_refl _
    | true =>
      cases t with
      | char c hc =>
        intro hmark
        obtain rfl : c = '#' := by simpa [opensComment] using hmark
        rfl
      | escape c hc => exact Bool.false_le _

/-- What counts behind an open comment counts without it. -/
theorem Token.counts_anti (t : Token) {closed opened : Bool} (h : closed ≤ opened) :
    t.counts opened ≤ t.counts closed := by
  cases opened with
  | true => exact Bool.false_le _
  | false =>
    obtain rfl : closed = false := Bool.eq_false_of_le_false h
    exact Bool.le_refl _

theorem length_ite_le {kept counted : Bool} (h : kept ≤ counted) (cs : List Char) :
    (if kept then cs else []).length ≤ (if counted then cs else []).length := by
  cases kept with
  | false => exact Nat.zero_le _
  | true =>
    obtain rfl : counted = true := h rfl
    exact Nat.le_refl _

/-- **The text never keeps more than the parts**, also if a comment is open in front of it only. -/
theorem length_stripExtended_textOf (parts : List Part) {closed opened : Bool}
    (h : closed ≤ opened) :
    (stripExtended opened (textOf parts)).length ≤ (textOf (strip closed parts)).length := by
  induction parts generalizing closed opened with
  | nil => exact Nat.zero_le _
  | cons p parts ih =>
    cases p with
    | plain t =>
      rw [stripExtended_plain, textOf_strip_plain, List.length_append, List.length_append]
      exact Nat.add_le_add (length_ite_le (t.counts_anti h) _) (ih (t.opensComment_mono h))
    | stray =>
      have hnot : (!opened) ≤ (!closed) := by
        revert h
        cases closed <;> cases opened <;> decide
      rw [stripExtended_stray, textOf_strip_stray, List.length_append, List.length_append]
      exact Nat.add_le_add (length_ite_le hnot _) (ih h)
    | span s =>
      have hspan := length_stripExtended_chars (fun inComment => ih (Bool.false_le inComment))
        opened s.chars
      have hopen := length_ite_le (Bool.le_true (!opened)) ['\\', 'Q']
      rw [stripExtended_span, strip, textOf_span, List.length_append]
      simp only [List.length_cons, List.length_append, List.length_nil, if_true] at hopen ⊢
      omega

/-- **The text keeps what the parts do exactly if the spans are spared.** -/
theorem stripExtended_textOf_iff (parts : List Part) (inComment : Bool) :
    stripExtended inComment (textOf parts) = textOf (strip inComment parts) ↔
      Spared inComment parts := by
  induction parts generalizing inComment with
  | nil => simp [textOf, stripExtended, strip, Spared]
  | cons p parts ih =>
    cases p with
    | plain t =>
      rw [stripExtended_plain, textOf_strip_plain, List.append_right_inj]
      exact ih _
    | stray =>
      rw [stripExtended_stray, textOf_strip_stray, List.append_right_inj]
      exact ih _
    | span s =>
      rw [stripExtended_span, strip, textOf_span]
      by_cases hspared : inComment = false ∧ hasBare s.chars = false
      · obtain ⟨rfl, hbare⟩ := hspared
        rw [stripExtended_chars hbare]
        simp [Spared, hbare, ih]
      · -- something of the span is lost, and nothing behind it makes up for that
        have hlost : (inComment || hasBare s.chars) = true := by
          cases inComment with
          | true => rfl
          | false => simpa using hspared
        have hspan := length_stripExtended_chars
          (fun opened => length_stripExtended_textOf parts (Bool.false_le opened)) inComment s.chars
        have hopen := length_ite_le (Bool.le_true (!inComment)) ['\\', 'Q']
        refine iff_of_false (fun heq => ?_) fun h => hspared ⟨h.1, h.2.1⟩
        have hlength := congrArg List.length heq
        rw [hlost] at hspan
        simp only [List.length_cons, List.length_append, List.length_nil, if_true,
          Bool.toNat_true] at hopen hspan hlength
        omega

/-! ### Options -/

/-- That a pattern is extended makes no difference to its other options. -/
theorem readOptions_extended (cs : List Char) (extended : Bool) (flags : List Char) :
    readOptions ⟨extended, flags⟩ cs =
      (readOptions ⟨false, flags⟩ (cs.filter fun c => c != 'x')).map fun o =>
        ⟨extended || cs.contains 'x', o.flags⟩ := by
  induction cs generalizing extended flags with
  | nil => simp [readOptions, Except.map]
  | cons c cs ih =>
    by_cases hx : c = 'x'
    · subst hx
      rw [readOptions, if_pos rfl, ih]
      simp
    · rw [List.filter_cons_of_pos (by simpa using hx), readOptions, readOptions, if_neg hx,
        if_neg hx]
      have hcontains : (c :: cs).contains 'x' = cs.contains 'x' := by simp [Ne.symm hx]
      rw [hcontains]
      by_cases hflag : c = 'm' ∨ c = 's'
      · rw [if_pos hflag, if_pos hflag]
        by_cases hmem : flags.contains c = true
        · rw [if_pos hmem, if_pos hmem, ih]
        · rw [if_neg hmem, if_neg hmem, ih]
      · rw [if_neg hflag, if_neg hflag]
        split <;> rfl

/-- Options without the one for extended patterns. -/
def withoutExtended (options : String) : String :=
  String.ofList (options.toList.filter fun c => c != 'x')

/-- With the option, the text is stripped first, and the rest goes as without it. -/
theorem translate_of_extended {options : String} (hx : 'x' ∈ options.toList) (cs : List Char) :
    translate (String.ofList cs) (some options) =
      translate (String.ofList (stripExtended false cs)) (some (withoutExtended options)) := by
  have hplain := readOptions_extended (options.toList.filter fun c => c != 'x') false []
  have hcontains : options.toList.contains 'x' = true := by simpa using hx
  have hnone : (options.toList.filter fun c => c != 'x').contains 'x' = false := by simp
  rw [List.filter_filter, hnone] at hplain
  simp only [Bool.and_self, Bool.or_false] at hplain
  rw [translate_eq, translate_eq, Option.getD_some, Option.getD_some, withoutExtended,
    String.toList_ofList, readOptions_extended options.toList, hcontains]
  cases hread : readOptions ⟨false, []⟩ (options.toList.filter fun c => c != 'x') with
  | error fault => rfl
  | ok o =>
    rw [hread] at hplain
    have hextended : o.extended = false := congrArg Options.extended (Except.ok.inj hplain)
    simp [Except.map, hextended]

/-- **Extended patterns.**  The first pass leaves the text of the stripped pattern exactly if the
spans are spared.  Then the pattern is translated as the stripped one is without the option, and
every span gives its own characters. -/
theorem translate_extended (parts : List Part) {options : String} (hx : 'x' ∈ options.toList) :
    (stripExtended false (textOf parts) = textOf (strip false parts) ↔ Spared false parts) ∧
      (Spared false parts →
        translate (String.ofList (textOf parts)) (some options) =
            translate (String.ofList (textOf (strip false parts)))
              (some (withoutExtended options)) ∧
          literalize false (stripExtended false (textOf parts)) =
            (strip false parts).flatMap Part.translated) := by
  have hiff := stripExtended_textOf_iff parts false
  refine ⟨hiff, fun hspared => ?_⟩
  rw [translate_of_extended hx, hiff.2 hspared]
  refine ⟨rfl, ?_⟩
  have hparts := literalize_parts (strip false parts) []
  rw [List.append_nil] at hparts
  exact hparts.trans (List.append_nil _)

/-- A pattern with blanks, a comment, an escaped blank, and a span that holds one too. -/
def annotatedParts : List Part :=
  [.plain (.char 'a' (by decide)), .plain (.char ' ' (by decide)),
    .plain (.char '#' (by decide)), .plain (.escape 'd' (by decide)),
    .plain (.char '\n' (by decide)), .plain (.escape ' ' (by decide)),
    .span ⟨['.', '\\', ' ', '*'], by decide⟩, .plain (.char ' ' (by decide)),
    .plain (.char '$' (by decide))]

theorem translate_extended_annotatedParts :
    'x' ∈ "xm".toList ∧ Spared false annotatedParts ∧
      String.ofList (textOf annotatedParts) = "a #\\d\n\\ \\Q.\\ *\\E $" ∧
      translate "a #\\d\n\\ \\Q.\\ *\\E $" (some "xm") = .ok r"(?m)a\ \.\\\ \*$" := by
  have hx : 'x' ∈ "xm".toList := by decide
  have htext : String.ofList (textOf annotatedParts) = "a #\\d\n\\ \\Q.\\ *\\E $" := by
    decide +kernel
  have hspared : Spared false annotatedParts := by
    refine (translate_extended annotatedParts hx).1.1 ?_
    decide +kernel
  have htranslated := ((translate_extended annotatedParts hx).2 hspared).1
  rw [htext] at htranslated
  exact ⟨hx, hspared, htext, htranslated.trans (congrArg Except.ok (by decide +kernel))⟩

/-- A span with a blank. -/
def spacedSpan : List Part := [.span ⟨['a', ' ', 'b'], by decide⟩]

/-- The blank of a literal span gets lost in an extended pattern. -/
theorem not_translated_stripped :
    String.ofList (textOf spacedSpan) = r"\Qa b\E" ∧
      translate r"\Qa b\E" (some "x") = .ok "ab" ∧
      translate r"\Qa b\E" (some "") = .ok r"a\ b" ∧
      ¬ ∀ (parts : List Part) (options : String), 'x' ∈ options.toList →
        translate (String.ofList (textOf parts)) (some options) =
          translate (String.ofList (textOf (strip false parts)))
            (some (withoutExtended options)) := by
  have htext : String.ofList (textOf spacedSpan) = r"\Qa b\E" := by decide +kernel
  have hextended : translate r"\Qa b\E" (some "x") = .ok "ab" :=
    congrArg Except.ok (by decide +kernel)
  have hplain : translate r"\Qa b\E" (some "") = .ok r"a\ b" :=
    congrArg Except.ok (by decide +kernel)
  refine ⟨htext, hextended, hplain, fun hall => ?_⟩
  have hself : textOf (strip false spacedSpan) = textOf spacedSpan := rfl
  have hempty : withoutExtended "x" = "" := by decide +kernel
  have hboth := hall spacedSpan "x" (by decide)
  rw [hself, hempty, htext, hextended, hplain] at hboth
  exact absurd (Except.ok.inj hboth) (by decide)

end Pattern

end DocStore
