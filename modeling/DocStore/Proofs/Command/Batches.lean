import DocStore.Proofs.Command.Scope
import DocStore.Proofs.Result
import DocStore.Proofs.Sql.Clear

/-!
# Batches of statements with any texts

A text is a row of marks: characters, and placeholders with their numbers (`Template.marks`).  What
a statement is written as depends on its marks only, so it does not matter whether a template is
used as it is or written out and read again.

Moving the placeholders of a text changes the numbers of its marks and nothing else, also where a
number gets more digits (`Template.marks_shiftText`), because what stands behind a placeholder
cannot begin with a digit.  So a batch has the marks of its statements, and writes what they write
(`Statement.render_batch_ofText`).
-/

namespace DocStore

namespace Sql

/-- What stands in a text: a character, or a placeholder with its number. -/
inductive Mark where
  | char (c : Char)
  | slot (n : Nat)
  deriving DecidableEq, Repr

namespace Mark

/-- The mark behind `k` more parameters. -/
def shift (k : Nat) : Mark → Mark
  | .char c => .char c
  | .slot n => .slot (n + k)

/-- The characters of a mark, placeholder `n` being written as `f n`. -/
def fill (f : Nat → String) : Mark → List Char
  | .char c => [c]
  | .slot n => (f n).toList

end Mark

/-- The marks of a piece. -/
def Piece.marks : Piece → List Mark
  | .text s => s.toList.map .char
  | .slot n => [.slot n]
  | .wide n => [.slot n]

/-- A piece that a text may have: its number is not zero, and is wide if it fits no machine word. -/
def Piece.Legible : Piece → Prop
  | .text _ => True
  | .slot n => 1 ≤ n
  | .wide n => 2 ^ 64 ≤ n

theorem Piece.legible_ofNumber {n : Nat} (h : 1 ≤ n) : (ofNumber n).Legible := by
  unfold ofNumber
  split
  · exact h
  · next hwide => exact Nat.not_lt.1 hwide

namespace Template

/-- The marks of a template. -/
def marks (t : Template) : List Mark := t.flatMap Piece.marks

@[simp] theorem marks_nil : marks [] = [] := rfl

@[simp] theorem marks_cons (p : Piece) (t : Template) : marks (p :: t) = p.marks ++ marks t := by
  simp [marks]

@[simp] theorem marks_append (t u : Template) : marks (t ++ u) = marks t ++ marks u := by
  simp [marks]

@[simp] theorem marks_flush (read : List Char) :
    marks (flush read) = read.reverse.map .char := by
  cases read with
  | nil => rfl
  | cons c read => simp [flush, Piece.marks]

theorem marks_ofNumber (n : Nat) : (Piece.ofNumber n).marks = [.slot n] := by
  unfold Piece.ofNumber
  split <;> rfl

/-- The marks say what a template is written as. -/
theorem toList_fill (f : Nat → String) (t : Template) :
    (t.fill f).toList = t.marks.flatMap (Mark.fill f) := by
  induction t with
  | nil => rfl
  | cons p t ih =>
    have hp : (p.fill f).toList = p.marks.flatMap (Mark.fill f) := by
      cases p with
      | text s => simp [Piece.marks, Mark.fill, List.flatMap_map]
      | slot n | wide n => simp [Piece.marks, Mark.fill, Piece.fill]
    rw [fill_cons, String.toList_append, hp, ih, marks_cons, List.flatMap_append]

theorem fill_eq_of_marks {t u : Template} (h : t.marks = u.marks) (f : Nat → String) :
    t.fill f = u.fill f := by
  rw [← String.toList_inj, toList_fill, toList_fill, h]

theorem marks_shift {lo hi : Nat} {t : Template} (h : t.Within lo hi) (k : Nat) :
    marks (t.shift k) = t.marks.map (Mark.shift k) := by
  induction t with
  | nil => rfl
  | cons p t ih =>
    obtain ⟨hp, ht⟩ := within_cons.1 h
    have hpiece : (p.shift k).marks = p.marks.map (Mark.shift k) := by
      cases p with
      | text s => simp [Piece.shift, Piece.marks, Mark.shift]
      | slot n => rfl
      | wide n => exact hp.elim
    have hcons : shift k (p :: t) = p.shift k :: shift k t := rfl
    rw [hcons, marks_cons, marks_cons, hpiece, ih ht, List.map_append]

theorem lt_of_slot_mem_marks {lo hi n : Nat} {t : Template} (h : t.Within lo hi)
    (hn : .slot n ∈ t.marks) : n < hi := by
  obtain ⟨p, hp, hmem⟩ := List.mem_flatMap.1 hn
  have hrange := h p hp
  cases p with
  | text s => simp [Piece.marks] at hmem
  | slot m =>
    obtain rfl : n = m := by simpa [Piece.marks] using hmem
    exact hrange.2
  | wide m => exact hrange.elim

/-- Numbers in range can be told from the marks. -/
theorem within_of_marks {hi : Nat} (hhi : hi ≤ 2 ^ 64) {t : Template} (h : ∀ p ∈ t, p.Legible)
    (hmarks : ∀ n, .slot n ∈ t.marks → n < hi) : t.Within 1 hi := by
  intro p hp
  have hlegible := h p hp
  have hmem : ∀ n, .slot n ∈ p.marks → n < hi := fun n hn =>
    hmarks n (List.mem_flatMap.2 ⟨p, hp, hn⟩)
  cases p with
  | text s => trivial
  | slot n => exact ⟨hlegible, hmem n (by simp [Piece.marks])⟩
  | wide n =>
    have hlt : n < hi := hmem n (by simp [Piece.marks])
    exact absurd (Nat.lt_of_lt_of_le hlt hhi) (Nat.not_lt.2 hlegible)

/-! ### Reading texts -/

/-- A text is empty, or it begins with a character that is no dollar sign, with a dollar sign that
begins no number, or with a placeholder. -/
@[elab_as_elim]
theorem text_induction {motive : List Char → Prop} (nil : motive [])
    (char : ∀ c cs, c ≠ '$' → motive cs → motive (c :: cs))
    (dollar : ∀ cs : List Char, (∀ c ∈ cs.head?, (c.isDigit && c != '0') = false) → motive cs →
      motive ('$' :: cs))
    (number : ∀ (d : Char) (ds rest : List Char), (∀ c ∈ d :: ds, c.isDigit = true) → d ≠ '0' →
      (∀ c ∈ rest.head?, c.isDigit = false) → motive rest → motive ('$' :: d :: ds ++ rest))
    (cs : List Char) : motive cs := by
  induction hlength : cs.length using Nat.strongRecOn generalizing cs with
  | ind length ih =>
    cases cs with
    | nil => exact nil
    | cons c cs =>
      have htail : motive cs := ih _ (by simp [← hlength]) cs rfl
      by_cases hc : c = '$'
      · subst hc
        by_cases hquiet : ∀ d ∈ cs.head?, (d.isDigit && d != '0') = false
        · exact dollar cs hquiet htail
        · -- the number ends where the digits do
          obtain ⟨d, rest, rfl⟩ : ∃ d rest, cs = d :: rest := by
            cases cs with
            | nil => simp at hquiet
            | cons d rest => exact ⟨d, rest, rfl⟩
          have hd : d.isDigit = true ∧ d ≠ '0' := by simpa using hquiet
          have hsplit : rest.takeWhile Char.isDigit ++ rest.dropWhile Char.isDigit = rest :=
            List.takeWhile_append_dropWhile
          have hhead : ∀ c ∈ (rest.dropWhile Char.isDigit).head?, c.isDigit = false := by
            intro c hc
            have hnot := List.head?_dropWhile_not Char.isDigit rest
            rw [hc] at hnot
            simpa using hnot
          have hdigits : ∀ c ∈ d :: rest.takeWhile Char.isDigit, c.isDigit = true := by
            intro c hc
            rcases List.mem_cons.1 hc with rfl | hc
            · exact hd.1
            · exact List.all_eq_true.1 List.all_takeWhile c hc
          have hbehind : motive (rest.dropWhile Char.isDigit) := by
            refine ih _ ?_ _ rfl
            have hle := (List.dropWhile_suffix Char.isDigit (l := rest)).length_le
            simp only [List.length_cons] at hlength
            omega
          have hall := number d _ _ hdigits hd.2 hhead hbehind
          rwa [List.cons_append, List.cons_append, hsplit] at hall
      · exact char c cs hc htail

/-- What was read before stands in front. -/
theorem marks_scanFrom (cs read : List Char) :
    marks (scanFrom (.plain read) cs) =
        read.reverse.map .char ++ marks (scanFrom (.plain []) cs) ∧
      marks (scanFrom (.dollar read) cs) =
        read.reverse.map .char ++ marks (scanFrom (.dollar []) cs) := by
  induction cs generalizing read with
  | nil => simp [scanFrom]
  | cons c cs ih =>
    constructor
    · by_cases hc : c = '$'
      · simp only [scanFrom, if_pos hc]
        exact (ih read).2
      · simp only [scanFrom, if_neg hc]
        rw [(ih (c :: read)).1, (ih [c]).1]
        simp
    · by_cases hc : c = '$'
      · simp only [scanFrom, if_pos hc]
        rw [(ih ('$' :: read)).2, (ih ['$']).2]
        simp
      · by_cases hdigit : c.isDigit = true ∧ c ≠ '0'
        · simp only [scanFrom, if_neg hc, if_pos hdigit]
          simp
        · simp only [scanFrom, if_neg hc, if_neg hdigit]
          rw [(ih (c :: '$' :: read)).1, (ih [c, '$']).1]
          simp

/-- The marks of a text. -/
def textMarks (cs : List Char) : List Mark := marks (scanFrom (.plain []) cs)

theorem textMarks_char {c : Char} (h : c ≠ '$') (cs : List Char) :
    textMarks (c :: cs) = .char c :: textMarks cs := by
  rw [textMarks, scanFrom, if_neg h, (marks_scanFrom cs [c]).1]
  rfl

theorem textMarks_dollar {cs : List Char} (h : ∀ c ∈ cs.head?, (c.isDigit && c != '0') = false) :
    textMarks ('$' :: cs) = .char '$' :: textMarks cs := by
  rw [textMarks, scanFrom, if_pos rfl]
  cases cs with
  | nil => rfl
  | cons c cs =>
    rw [scanFrom_dollar (h c rfl), (marks_scanFrom (c :: cs) ['$']).1]
    rfl

theorem textMarks_number {d : Char} {ds rest : List Char}
    (hdigits : ∀ c ∈ d :: ds, c.isDigit = true) (hd : d ≠ '0')
    (hrest : ∀ c ∈ rest.head?, c.isDigit = false) :
    textMarks ('$' :: d :: ds ++ rest) =
      .slot (Nat.ofDigitChars 10 (d :: ds) 0) :: textMarks rest := by
  rw [textMarks, scanFrom_digits hdigits hd hrest, marks_append, marks_cons, marks_ofNumber]
  rfl

theorem textMarks_slot {n : Nat} (h : 1 ≤ n) {rest : List Char}
    (hrest : ∀ c ∈ rest.head?, c.isDigit = false) :
    textMarks (("$" ++ toString n).toList ++ rest) = .slot n :: textMarks rest := by
  rw [textMarks, scanFrom_slot h hrest, marks_append, marks_cons, marks_ofNumber]
  rfl

/-- A number without a leading zero is not zero. -/
theorem one_le_ofDigitChars {d : Char} (hdigit : d.isDigit = true) (hd : d ≠ '0')
    (ds : List Char) : 1 ≤ Nat.ofDigitChars 10 (d :: ds) 0 := by
  have hfirst : 1 ≤ d.toNat - '0'.toNat := by
    have hle : '0'.toNat ≤ d.toNat := by
      simpa [Char.isDigit] using (Char.isDigit_iff_toNat.1 hdigit).1
    have hne : d.toNat ≠ '0'.toNat := fun heq => hd (Char.toNat_inj.1 heq)
    omega
  rw [Nat.ofDigitChars_cons, Nat.ofDigitChars_eq_ofDigitChars_zero]
  have hpos : 0 < 10 ^ ds.length * (10 * 0 + (d.toNat - '0'.toNat)) :=
    Nat.mul_pos (Nat.pow_pos (by omega)) (by omega)
  exact Nat.le_add_right_of_le hpos

/-- Every piece that is read from a text is legible. -/
theorem legible_scanFrom (cs read : List Char) :
    ∀ p ∈ scanFrom (.plain read) cs, p.Legible := by
  have hflush : ∀ read, ∀ p ∈ flush read, p.Legible := by
    intro read p hp
    cases read with
    | nil => cases hp
    | cons c read =>
      obtain rfl := List.mem_singleton.1 hp
      trivial
  induction cs using text_induction generalizing read with
  | nil => exact hflush read
  | char c cs hc ih =>
    rw [scanFrom, if_neg hc]
    exact ih _
  | dollar cs hcs ih =>
    rw [scanFrom, if_pos rfl]
    cases cs with
    | nil => exact hflush _
    | cons c cs =>
      rw [scanFrom_dollar (hcs c rfl)]
      exact ih _
  | number d ds rest hdigits hd hrest ih =>
    rw [scanFrom_digits hdigits hd hrest]
    intro p hp
    rcases List.mem_append.1 hp with hp | hp
    · exact hflush read p hp
    · rcases List.mem_cons.1 hp with rfl | hp
      · exact Piece.legible_ofNumber (one_le_ofDigitChars (hdigits d List.mem_cons_self) hd ds)
      · exact ih [] p hp

/-! ### Moving texts -/

/-- The text of marks that are moved behind `k` parameters. -/
def moved (k : Nat) (ms : List Mark) : List Char :=
  ms.flatMap (Mark.fill fun n => "$" ++ toString (n + k))

theorem toList_print_shift {lo hi : Nat} {t : Template} (h : t.Within lo hi) (k : Nat) :
    (t.shift k).print.toList = moved k t.marks := by
  rw [print_eq_fill, fill_shift h, toList_fill, moved]

/-- A text that is moved begins as it did. -/
theorem head?_moved (k : Nat) (cs rest : List Char) :
    (moved k (textMarks cs) ++ rest).head? = (cs ++ rest).head? := by
  induction cs using text_induction with
  | nil => rfl
  | char c cs hc ih => rw [textMarks_char hc]; rfl
  | dollar cs hcs ih => rw [textMarks_dollar hcs]; rfl
  | number d ds cs hdigits hd hcs ih =>
    rw [textMarks_number hdigits hd hcs]
    simp [moved, Mark.fill]

/-- **A text that is moved is read as the same marks, moved**, in front of anything that does not
begin with a digit. -/
theorem textMarks_moved (k : Nat) (cs : List Char) {rest : List Char}
    (hrest : ∀ c ∈ rest.head?, c.isDigit = false) :
    textMarks (moved k (textMarks cs) ++ rest) =
      (textMarks cs).map (Mark.shift k) ++ textMarks rest := by
  have hhead : ∀ {p : Char → Prop} {cs : List Char}, (∀ c ∈ (cs ++ rest).head?, p c) →
      ∀ c ∈ (moved k (textMarks cs) ++ rest).head?, p c := by
    intro p cs h
    rw [head?_moved]
    exact h
  induction cs using text_induction with
  | nil => rfl
  | char c cs hc ih =>
    rw [textMarks_char hc]
    exact (textMarks_char hc _).trans (congrArg _ ih)
  | dollar cs hcs ih =>
    have hquiet : ∀ c ∈ (cs ++ rest).head?, (c.isDigit && c != '0') = false := by
      cases cs with
      | nil =>
        intro c hc
        rw [hrest c hc, Bool.false_and]
      | cons c cs => exact hcs
    rw [textMarks_dollar hcs]
    exact (textMarks_dollar (hhead hquiet)).trans (congrArg _ ih)
  | number d ds cs hdigits hd hcs ih =>
    have hbehind : ∀ c ∈ (cs ++ rest).head?, c.isDigit = false := by
      cases cs with
      | nil => exact hrest
      | cons c cs => exact hcs
    have hpos : 1 ≤ Nat.ofDigitChars 10 (d :: ds) 0 + k :=
      Nat.le_add_right_of_le (one_le_ofDigitChars (hdigits d List.mem_cons_self) hd ds)
    rw [textMarks_number hdigits hd hcs, List.map_cons, List.cons_append, ← ih]
    have hslot := textMarks_slot hpos (hhead hbehind)
    rwa [← List.append_assoc] at hslot

end Template

namespace Statement

open Template (textMarks)

/-- The statement with a text. -/
def ofText (text : String) (params : List Param) : Statement := ⟨Template.scan text, params⟩

variable {params : List Param} {texts : List (String × List Param)}

/-- A statement that renders numbers its own parameters. -/
theorem scoped_of_render {text rendered : String} (h : (ofText text params).render = .ok rendered) :
    (ofText text params).Scoped := by
  have hpieces : ∀ t : Template, (∀ p ∈ t, p.Legible) → ∀ whole rendered,
      renderPieces params whole t = .ok rendered → t.Within 1 (params.length + 1) := by
    intro t
    induction t with
    | nil => simp
    | cons p t ih =>
      intro hlegible whole rendered h
      obtain ⟨first, hfirst, h⟩ := Result.bind_eq_ok.1 h
      obtain ⟨last, hlast, -⟩ := Result.bind_eq_ok.1 h
      refine Template.within_cons.2 ⟨?_, ih (fun q hq => hlegible q (List.mem_cons_of_mem _ hq))
        whole last hlast⟩
      cases p with
      | text s => trivial
      | slot n =>
        have hpos : 1 ≤ n := hlegible _ List.mem_cons_self
        cases hparam : params[n - 1]? with
        | none => simp [renderPiece, hparam] at hfirst
        | some p =>
          have hlt := (List.getElem?_eq_some_iff.1 hparam).1
          exact ⟨hpos, by omega⟩
      | wide n => cases hfirst
  exact hpieces _ (Template.legible_scanFrom _ _) _ _ h

/-- The text of a batch is read as what it is made of. -/
theorem textMarks_batchFrom (h : ∀ s ∈ texts, (ofText s.1 s.2).Scoped) (k : Nat) :
    textMarks (batchFrom k (texts.map fun s => ofText s.1 s.2)).text.print.toList =
      (batchFrom k (texts.map fun s => ofText s.1 s.2)).text.marks := by
  induction texts generalizing k with
  | nil => rfl
  | cons s rest ih =>
    have hs : (Template.scan s.1).Within 1 (s.2.length + 1) := h s List.mem_cons_self
    have hrest := ih (fun u hu => h u (List.mem_cons_of_mem _ hu)) (k + s.2.length)
    have htext : (batchFrom k ((s :: rest).map fun s => ofText s.1 s.2)).text =
        (Template.scan s.1).shift k ++ .text ";" ::
          (batchFrom (k + s.2.length) (rest.map fun s => ofText s.1 s.2)).text := rfl
    have hend : (Piece.text ";").print.toList = [';'] := rfl
    have hbehind : ∀ cs : List Char, ∀ c ∈ (';' :: cs).head?, c.isDigit = false := by
      intro cs c hc
      cases hc
      rfl
    rw [htext, Template.print_append, Template.print_cons, String.toList_append,
      String.toList_append, hend, Template.toList_print_shift hs, Template.marks_append,
      Template.marks_cons, Template.marks_shift hs, ← hrest]
    refine (Template.textMarks_moved k s.1.toList (hbehind _)).trans ?_
    exact congrArg _ (Template.textMarks_char (by decide) _)

theorem params_batchFrom (statements : List Statement) (k : Nat) :
    (batchFrom k statements).params = statements.flatMap Statement.params := by
  induction statements generalizing k with
  | nil => rfl
  | cons s rest ih => rw [batchFrom, ih, List.flatMap_cons]

/-- Statements that render are scoped, and every placeholder is filled with its parameter. -/
theorem scoped_and_eq_of_render {rendered : List String}
    (h : List.Forall₂ (fun s text => (ofText s.1 s.2).render = .ok text) texts rendered) :
    (∀ s ∈ texts, (ofText s.1 s.2).Scoped) ∧
      rendered = texts.map fun s => (Template.scan s.1).fill (Param.textAt s.2) := by
  induction h with
  | nil => simp
  | cons htext _ ih =>
    obtain ⟨hscoped, hrest⟩ := ih
    have hfirst := scoped_of_render htext
    rw [render_eq hfirst] at htext
    refine ⟨List.forall_mem_cons.2 ⟨hfirst, hscoped⟩, ?_⟩
    rw [List.map_cons, ← hrest, ← Except.ok.inj htext]
    rfl

/-- **A batch writes what its statements write**, each with a semicolon, whatever their texts and
parameters are.  So does the text of the batch when it is read again, as far as its numbers fit a
machine word. -/
theorem render_batch_ofText {rendered : List String}
    (h : List.Forall₂ (fun s text => (ofText s.1 s.2).render = .ok text) texts rendered) :
    let b := batch (texts.map fun s => ofText s.1 s.2)
    b.render = .ok (String.join (rendered.map fun text => text ++ ";")) ∧
      b.params = texts.flatMap Prod.snd ∧
      (b.params.length < 2 ^ 64 → (ofText b.text.print b.params).render = b.render) := by
  intro b
  obtain ⟨hscoped, hrendered⟩ := scoped_and_eq_of_render h
  have hall : ∀ s ∈ texts.map fun s => ofText s.1 s.2, s.Scoped := by
    intro s hs
    obtain ⟨t, ht, rfl⟩ := List.mem_map.1 hs
    exact hscoped t ht
  refine ⟨?_, ?_, fun hlength => ?_⟩
  · rw [render_batch hall, hrendered, List.map_map, List.map_map]
    rfl
  · exact (params_batchFrom _ 0).trans (List.flatMap_map ..)
  · have hmarks : (Template.scan b.text.print).marks = b.text.marks := textMarks_batchFrom hscoped 0
    have hwithin : b.text.Within 1 (b.params.length + 1) := scoped_batch hall
    have hagain : (ofText b.text.print b.params).Scoped := by
      refine Template.within_of_marks hlength (Template.legible_scanFrom _ _) fun n hn => ?_
      have hn : Mark.slot n ∈ (Template.scan b.text.print).marks := hn
      rw [hmarks] at hn
      exact Template.lt_of_slot_mem_marks hwithin hn
    rw [render_eq hagain, render_eq (s := b) hwithin]
    exact congrArg _ (Template.fill_eq_of_marks hmarks _)

/-- Twelve names. -/
def twelveNames : List Param := (List.range 12).map fun i => .ident (toString i)

/-- Texts with numbers of one and two digits, and with dollar signs that begin no placeholder. -/
def twoTexts : List (String × List Param) :=
  [("$12 $0 $$1", twelveNames), ("$1, '$', $10 ($1) $", twelveNames)]

theorem render_batch_ofText_twoTexts :
    let b := batch (twoTexts.map fun s => ofText s.1 s.2)
    List.Forall₂ (fun s text => (ofText s.1 s.2).render = .ok text) twoTexts
        ["`11` $0 $`0`", "`0`, '$', `9` (`0`) $"] ∧
      b.text.print = "$12 $0 $$1;$13, '$', $22 ($13) $;" ∧
      b.render = .ok "`11` $0 $`0`;`0`, '$', `9` (`0`) $;" ∧
      b.params.length < 2 ^ 64 ∧
      (ofText "$12 $0 $$1;$13, '$', $22 ($13) $;" (twelveNames ++ twelveNames)).render =
        .ok "`11` $0 $`0`;`0`, '$', `9` (`0`) $;" := by
  intro b
  have heach : List.Forall₂ (fun s text => (ofText s.1 s.2).render = .ok text) twoTexts
      ["`11` $0 $`0`", "`0`, '$', `9` (`0`) $"] :=
    .cons (by decide +kernel) (.cons (by decide +kernel) .nil)
  have htext : b.text.print = "$12 $0 $$1;$13, '$', $22 ($13) $;" := by decide +kernel
  obtain ⟨hbatch, hparams, hagain⟩ := render_batch_ofText heach
  have hlength : b.params.length < 2 ^ 64 := by
    rw [hparams]
    decide
  have hread := (hagain hlength).trans hbatch
  rw [htext, hparams] at hread
  exact ⟨heach, htext, hbatch, hlength, hread⟩

end Statement

end Sql

end DocStore
