import DocStore.Proofs.Sql.Literals
import DocStore.Proofs.Sql.Manners
import DocStore.Proofs.Sql.Scope
import Mathlib.Algebra.Group.Nat.Defs
import Mathlib.Data.List.Forall2

/-!
# Clear templates

A template is *clear* if its own text keeps its parameters apart (`Template.Clear`): every text has
its quotes closed, a placeholder stands where a token may begin, and the text behind a placeholder
begins with a character that no token goes on with.  No text holds what could be read as a
placeholder.

The tokens of a rendered clear template are those of its texts, with one token for each placeholder
between them, whatever the parameters are (`Template.reads_mergeFrom`).  And its text with numbered
placeholders is read back as the same texts and placeholders (`Template.scan_print`), where texts
without a placeholder between them count as one (`Template.merge`).
-/

namespace DocStore

namespace Sql

/-- No dollar sign begins a placeholder, and none is the last character. -/
def isQuiet : List Char → Bool
  | [] => true
  | c :: rest =>
    (c != '$' || rest.head?.any fun d => !(d.isDigit && d != '0')) && isQuiet rest

/-- A text that may stand in a template; `free` says that a token may begin in front of it. -/
def opens (free : Bool) (s : String) : Bool :=
  s.isEmpty || ((free || s.toList.head?.any isApart) && (tokens? s).isSome && isQuiet s.toList)

/-- Whether a token may begin behind a text. -/
def leavesFree (free : Bool) (s : String) : Bool :=
  if s.isEmpty then free else (Mode.start.after s.toList).isFree

theorem isEmpty_iff_toList {s : String} : s.isEmpty = true ↔ s.toList = [] := by
  rw [String.isEmpty_iff, String.toList_eq_nil_iff]

/-- What an empty text or a text that may stand here comes to. -/
theorem opens_iff {free : Bool} {s : String} :
    opens free s = true ↔ s.toList = [] ∨
      ((free = true ∨ ∀ c ∈ s.toList.head?, isApart c = true) ∧ s.toList ≠ [] ∧
        (∃ ts, tokensFrom .start s.toList = some ts) ∧ isQuiet s.toList = true) := by
  have hsome : (tokens? s).isSome = true ↔ ∃ ts, tokensFrom .start s.toList = some ts :=
    Option.isSome_iff_exists
  have hempty := isEmpty_iff_toList (s := s)
  simp only [opens, Bool.or_eq_true, Bool.and_eq_true, hempty, hsome]
  cases s.toList with
  | nil => simp
  | cons c cs => simp [and_assoc]

theorem leavesFree_of_nil {free : Bool} {s : String} (h : s.toList = []) :
    leavesFree free s = free := by
  rw [leavesFree, if_pos (isEmpty_iff_toList.2 h)]

theorem leavesFree_of_ne_nil {free : Bool} {s : String} (h : s.toList ≠ []) :
    leavesFree free s = (Mode.start.after s.toList).isFree := by
  rw [leavesFree, if_neg fun hs => h (isEmpty_iff_toList.1 hs)]

/-- The manner of clear templates.  The state says whether a token may begin. -/
def clarity : Manner Bool where
  text := opens
  slot free := free
  behind := leavesFree
  least := false
  text_of_least free s hs := by
    rcases opens_iff.1 hs with hnil | ⟨hopen, hne, hrest⟩
    · -- nothing is read, so what follows stands in the same place
      exact ⟨opens_iff.2 (.inl hnil), .inl (leavesFree_of_nil hnil)⟩
    · have hapart : ∀ c ∈ s.toList.head?, isApart c = true := by simpa using hopen
      refine ⟨opens_iff.2 (.inr ⟨.inr hapart, hne, hrest⟩), .inr ?_⟩
      rw [leavesFree_of_ne_nil hne, leavesFree_of_ne_nil hne]
  slot_of_least _ h := absurd h Bool.false_ne_true

namespace Template

/-- The template keeps its parameters apart; `free` says that a token may begin in front of it. -/
def Clear (free : Bool) (t : Template) : Prop := Fits clarity free t

section Pieces

variable {free : Bool} {s : String} {n : Nat} {t : Template}

theorem clear_text :
    Clear free (.text s :: t) ↔ opens free s = true ∧ Clear (leavesFree free s) t := Iff.rfl

theorem clear_slot : Clear free (.slot n :: t) ↔ free = true ∧ Clear false t := Iff.rfl

end Pieces

/-! ### Texts and placeholders in turn -/

/-- The template with texts put together, behind text that was read already, last character
first. -/
def mergeFrom (read : List Char) : Template → Template
  | [] => flush read
  | .text s :: t => mergeFrom (s.toList.reverse ++ read) t
  | p :: t => flush read ++ p :: mergeFrom [] t

/-- The template with its texts put together where no placeholder is between them. -/
def merge (t : Template) : Template := mergeFrom [] t

/-- A stretch of rendered text with its tokens. -/
structure Cut where
  text : String
  tokens : List Token

/-- What a piece is in a rendered text: a text is itself, with its own tokens, and a placeholder is
the one token of its parameter. -/
def Reads (params : List Param) : Piece → Cut → Prop
  | .text s, cut => cut.text = s ∧ tokens? s = some cut.tokens
  | .slot n, cut => ∃ p kind, params[n - 1]? = some p ∧ p.kind? = some kind ∧
      cut.text = p.render ∧ cut.tokens = [⟨kind, p.render⟩]
  | .wide _, _ => False

/-- The text behind a placeholder is empty, or no token goes on with its first character. -/
theorem head_isApart {f : Nat → String} {t : Template} (h : Clear false t) :
    ∀ c ∈ (t.fill f).toList.head?, isApart c = true := by
  induction t with
  | nil => simp
  | cons p t ih =>
    cases p with
    | text s =>
      obtain ⟨hs, ht⟩ := clear_text.1 h
      rw [fill_cons, Piece.fill_text, String.toList_append]
      rcases opens_iff.1 hs with hnil | ⟨hopen, hne, -⟩
      · rw [leavesFree_of_nil hnil] at ht
        simpa [hnil] using ih ht
      · obtain ⟨c, cs, hcs⟩ := List.exists_cons_of_ne_nil hne
        simpa [hcs] using hopen
    | slot n => exact absurd h.1 (by decide)
    | wide n => exact h.elim

variable {params : List Param}

theorem reads_flush (params : List Param) {read : List Char} {ts : List Token}
    (hread : tokensFrom .start read.reverse = some ts) :
    ∃ cuts, List.Forall₂ (Reads params) (flush read) cuts ∧
      String.join (cuts.map Cut.text) = String.ofList read.reverse ∧
      cuts.flatMap Cut.tokens = ts := by
  cases read with
  | nil =>
    cases hread
    exact ⟨[], .nil, rfl, rfl⟩
  | cons c read =>
    refine ⟨[⟨String.ofList (c :: read).reverse, ts⟩], ?_, by simp, by simp⟩
    refine .cons ⟨rfl, ?_⟩ .nil
    rw [tokens?, String.toList_ofList]
    exact hread

/-- **The tokens of a clear template are those of its texts and its parameters in turn.** -/
theorem reads_mergeFrom (hparams : ∀ p ∈ params, p.kind?.isSome = true) {t : Template} {free : Bool}
    (hclear : Clear free t) (hwithin : t.Within 1 (params.length + 1)) (read : List Char)
    {ts : List Token} (hread : tokensFrom .start read.reverse = some ts)
    (hfree : free = true → (Mode.start.after read.reverse).isFree = true) :
    ∃ cuts, List.Forall₂ (Reads params) (mergeFrom read t) cuts ∧
      String.join (cuts.map Cut.text) =
        String.ofList read.reverse ++ t.fill (Param.textAt params) ∧
      tokensFrom .start (read.reverse ++ (t.fill (Param.textAt params)).toList) =
        some (cuts.flatMap Cut.tokens) := by
  induction t generalizing free read ts with
  | nil =>
    obtain ⟨cuts, hcuts, htext, htokens⟩ := reads_flush params hread
    exact ⟨cuts, hcuts, by simp [htext], by simp [htokens, hread]⟩
  | cons p t ih =>
    obtain ⟨hp, ht⟩ := within_cons.1 hwithin
    cases p with
    | text s =>
      obtain ⟨hs, hclear⟩ := clear_text.1 hclear
      have hreverse : (s.toList.reverse ++ read).reverse = read.reverse ++ s.toList := by simp
      -- the text goes on with the stretch that was read before it
      have hnext : ∃ us, tokensFrom .start (read.reverse ++ s.toList) = some us ∧
          (leavesFree free s = true →
            (Mode.start.after (read.reverse ++ s.toList)).isFree = true) := by
        rcases opens_iff.1 hs with hnil | ⟨hopen, hne, ⟨us, hus⟩, -⟩
        · rw [hnil, List.append_nil, leavesFree_of_nil hnil]
          exact ⟨ts, hread, hfree⟩
        · have hends := ends_of_tokensFrom hread (hopen.imp_left hfree)
          refine ⟨ts ++ us, tokensFrom_append hread hus hends, fun h => ?_⟩
          rw [leavesFree_of_ne_nil hne] at h
          obtain ⟨c, cs, hcs⟩ := List.exists_cons_of_ne_nil hne
          rw [hcs] at hends h ⊢
          rw [Mode.after_append, Mode.after_of_ends hends]
          exact h
      obtain ⟨us, hus, hleaves⟩ := hnext
      rw [← hreverse] at hus hleaves
      obtain ⟨cuts, hcuts, htext, htokens⟩ := ih hclear ht _ hus hleaves
      refine ⟨cuts, hcuts, ?_, ?_⟩
      · rw [htext, hreverse, String.ofList_append, String.ofList_toList, fill_cons, Piece.fill_text,
          String.append_assoc]
      · rw [← htokens, hreverse, fill_cons, Piece.fill_text, String.toList_append,
          List.append_assoc]
    | slot n =>
      obtain ⟨rfl, hrest⟩ := clear_slot.1 hclear
      obtain ⟨h1, h2⟩ := hp
      have hlt : n - 1 < params.length := by omega
      obtain ⟨kind, hkind⟩ := Option.isSome_iff_exists.1 (hparams _ (List.getElem_mem hlt))
      have hget : params[n - 1]? = some params[n - 1] := List.getElem?_eq_getElem hlt
      have htextAt : Param.textAt params n = params[n - 1].render := by
        rw [Param.textAt, hget]
        rfl
      -- the stretch ends in front of the parameter, and a new one begins behind it
      obtain ⟨before, hbefore, hbeforeText, hbeforeTokens⟩ :=
        reads_flush params hread
      obtain ⟨cuts, hcuts, htext, htokens⟩ :=
        ih hrest.weaken ht [] rfl fun _ : true = true => rfl
      have hparam : tokensFrom .start params[n - 1].render.toList =
          some [⟨kind, params[n - 1].render⟩] := Param.tokens?_render hkind
      have hbehind := tokensFrom_append hparam htokens
        (ends_of_tokensFrom hparam (.inr (head_isApart hrest)))
      have hall := tokensFrom_append hread hbehind
        (ends_of_tokensFrom hread (.inl (hfree rfl)))
      refine ⟨before ++ ⟨params[n - 1].render, [⟨kind, params[n - 1].render⟩]⟩ :: cuts, ?_, ?_, ?_⟩
      · exact List.rel_append hbefore (.cons ⟨_, kind, hget, hkind, rfl, rfl⟩ hcuts)
      · simp [hbeforeText, htext, htextAt]
      · simpa [htextAt, hbeforeTokens] using hall
    | wide n => exact hp.elim

/-- The tokens of a piece, where placeholder `n` is written as the token `g n`. -/
def pieceTokens (g : Nat → Token) : Piece → List Token
  | .text s => (tokens? s).getD []
  | .slot n => [g n]
  | .wide n => [g n]

/-- The tokens of a clear template whose placeholders are written as tokens. -/
theorem tokens?_fill {f : Nat → String} {g : Nat → Token} (hslot : ∀ n, tokens? (f n) = some [g n])
    {t : Template} {free : Bool} (hclear : Clear free t) :
    tokens? (t.fill f) = some (t.flatMap (pieceTokens g)) := by
  induction t generalizing free with
  | nil => rfl
  | cons p t ih =>
    cases p with
    | text s =>
      obtain ⟨hs, hclear⟩ := clear_text.1 hclear
      rw [fill_cons, Piece.fill_text, tokens?, String.toList_append, List.flatMap_cons,
        pieceTokens, tokens?]
      rcases opens_iff.1 hs with hnil | ⟨-, hne, ⟨ts, hts⟩, -⟩
      · rw [hnil]
        exact ih hclear
      · rw [hts]
        refine tokensFrom_append hts (ih hclear) (ends_of_tokensFrom hts ?_)
        -- where the text leaves no room for a token, what follows is apart from it
        rw [leavesFree_of_ne_nil hne] at hclear
        cases hfree : (Mode.start.after s.toList).isFree with
        | true => exact .inl rfl
        | false =>
          rw [hfree] at hclear
          exact .inr (head_isApart hclear)
    | slot n =>
      obtain ⟨-, hclear⟩ := clear_slot.1 hclear
      rw [fill_cons, Piece.fill_slot, tokens?, String.toList_append]
      exact tokensFrom_append (hslot n) (ih hclear)
        (ends_of_tokensFrom (hslot n) (.inr (head_isApart hclear)))
    | wide n => exact hclear.elim

/-! ### Reading a template back -/

/-- A dollar sign in front of what begins no number is plain text. -/
theorem scanFrom_dollar {c : Char} (h : (c.isDigit && c != '0') = false) (read cs : List Char) :
    scanFrom (.dollar read) (c :: cs) = scanFrom (.plain ('$' :: read)) (c :: cs) := by
  by_cases hc : c = '$'
  · simp [scanFrom, hc]
  · have hnumber : ¬ (c.isDigit = true ∧ c ≠ '0') := by
      rintro ⟨hdigit, hzero⟩
      simp [hdigit, hzero] at h
    simp only [scanFrom, if_neg hc, if_neg hnumber]

theorem scanFrom_quiet {cs : List Char} (h : isQuiet cs = true) (read rest : List Char) :
    scanFrom (.plain read) (cs ++ rest) = scanFrom (.plain (cs.reverse ++ read)) rest := by
  induction cs generalizing read with
  | nil => rfl
  | cons c cs ih =>
    simp only [isQuiet, Bool.and_eq_true, Bool.or_eq_true] at h
    obtain ⟨hc, hcs⟩ := h
    have hstep : scanFrom (.plain read) (c :: (cs ++ rest)) =
        scanFrom (.plain (c :: read)) (cs ++ rest) := by
      by_cases hdollar : c = '$'
      · subst hdollar
        cases cs with
        | nil => simp at hc
        | cons d cs =>
          have hd : (d.isDigit && d != '0') = false := by
            simpa only [bne_self_eq_false, Bool.false_eq_true, false_or, List.head?_cons,
              Option.any_some, Bool.not_eq_true'] using hc
          simpa [scanFrom] using scanFrom_dollar hd read (cs ++ rest)
      · simp [scanFrom, hdollar]
    rw [List.cons_append, hstep, ih hcs]
    simp

theorem scanFrom_number_digits {ds : List Char} (h : ∀ d ∈ ds, d.isDigit = true) (n : Nat)
    (rest : List Char) :
    scanFrom (.number n) (ds ++ rest) = scanFrom (.number (Nat.ofDigitChars 10 ds n)) rest := by
  induction ds generalizing n with
  | nil => simp
  | cons d ds ih =>
    have hd := h d List.mem_cons_self
    have hds := ih fun c hc => h c (List.mem_cons_of_mem _ hc)
    rw [List.cons_append, scanFrom, if_pos hd, hds, Nat.ofDigitChars_cons, Nat.mul_comm]
    rfl

theorem scanFrom_number_end {rest : List Char} (h : ∀ c ∈ rest.head?, c.isDigit = false) (n : Nat) :
    scanFrom (.number n) rest = .ofNumber n :: scanFrom (.plain []) rest := by
  cases rest with
  | nil => rfl
  | cons c rest =>
    have hc : c.isDigit = false := h c rfl
    by_cases hdollar : c = '$'
    · simp [scanFrom, hdollar]
    · simp [scanFrom, hdollar, hc]

/-- A dollar sign with a number behind it is read as a placeholder. -/
theorem scanFrom_digits {d : Char} {ds rest : List Char} (hdigits : ∀ c ∈ d :: ds, c.isDigit = true)
    (hd : d ≠ '0') (hrest : ∀ c ∈ rest.head?, c.isDigit = false) (read : List Char) :
    scanFrom (.plain read) ('$' :: d :: ds ++ rest) =
      flush read ++ .ofNumber (Nat.ofDigitChars 10 (d :: ds) 0) :: scanFrom (.plain []) rest := by
  have hfirst : d.isDigit = true := hdigits d List.mem_cons_self
  have hdollar : d ≠ '$' := by
    rintro rfl
    simp at hfirst
  have hbehind : ∀ c ∈ ds, c.isDigit = true := fun c hc => hdigits c (List.mem_cons_of_mem _ hc)
  have hnumber : Nat.ofDigitChars 10 ds (d.toNat - 48) = Nat.ofDigitChars 10 (d :: ds) 0 := by
    simp [Nat.ofDigitChars_cons]
  calc
    scanFrom (.plain read) ('$' :: d :: ds ++ rest)
      = flush read ++ scanFrom (.number (d.toNat - 48)) (ds ++ rest) := by
        simp [scanFrom, hdollar, hfirst, hd]
    _ = flush read ++ scanFrom (.number (Nat.ofDigitChars 10 (d :: ds) 0)) rest := by
        rw [scanFrom_number_digits hbehind, hnumber]
    _ = flush read ++ .ofNumber (Nat.ofDigitChars 10 (d :: ds) 0) :: scanFrom (.plain []) rest := by
        rw [scanFrom_number_end hrest]

theorem toDigits_eq_cons {n : Nat} (h : 1 ≤ n) :
    ∃ d ds, Nat.toDigits 10 n = d :: ds ∧ d ≠ '0' := by
  -- the first digit is that of the number without its last one
  induction n using Nat.strongRecOn with
  | ind n ih =>
    rcases Nat.lt_or_ge n 10 with hlt | hge
    · refine ⟨Nat.digitChar n, [], Nat.toDigits_of_lt_base hlt, ?_⟩
      have : ∀ m < 10, 1 ≤ m → Nat.digitChar m ≠ '0' := by decide
      exact this n hlt h
    · obtain ⟨d, ds, hds, hd⟩ := ih (n / 10) (by omega) (by omega)
      refine ⟨d, ds ++ [Nat.digitChar (n % 10)], ?_, hd⟩
      rw [Nat.toDigits_of_base_le (by omega) hge, hds, List.cons_append]

/-- A placeholder is read back as its number. -/
theorem scanFrom_slot {n : Nat} (h : 1 ≤ n) {rest : List Char}
    (hrest : ∀ c ∈ rest.head?, c.isDigit = false) (read : List Char) :
    scanFrom (.plain read) (("$" ++ toString n).toList ++ rest) =
      flush read ++ .ofNumber n :: scanFrom (.plain []) rest := by
  have hdigits : ∀ d ∈ Nat.toDigits 10 n, d.isDigit = true := fun d hd =>
    Nat.isDigit_of_mem_toDigits (by omega) (by omega) hd
  have hvalue := Nat.ofDigitChars_ten_toDigits (n := n)
  obtain ⟨d, ds, hds, hd⟩ := toDigits_eq_cons h
  rw [hds] at hdigits hvalue
  have htext : ("$" ++ toString n).toList = '$' :: d :: ds := by
    simp [hds]
  rw [htext, scanFrom_digits hdigits hd hrest, hvalue]

theorem scanFrom_print {hi : Nat} (hhi : hi ≤ 2 ^ 64) {t : Template} {free : Bool}
    (hclear : Clear free t) (hwithin : t.Within 1 hi) (read : List Char) :
    scanFrom (.plain read) t.print.toList = mergeFrom read t := by
  induction t generalizing free read with
  | nil => simp [print, mergeFrom, scanFrom]
  | cons p t ih =>
    obtain ⟨hp, ht⟩ := within_cons.1 hwithin
    rw [print_cons, String.toList_append]
    cases p with
    | text s =>
      have hquiet : isQuiet s.toList = true := by
        rcases opens_iff.1 hclear.1 with hnil | ⟨-, -, -, hquiet⟩
        · rw [hnil]
          rfl
        · exact hquiet
      rw [Piece.print, scanFrom_quiet hquiet, ih hclear.2 ht, mergeFrom]
    | slot n =>
      obtain ⟨h1, h2⟩ := hp
      -- a digit behind the placeholder would be read as part of its number
      have hhead : ∀ c ∈ (print t).toList.head?, c.isDigit = false := by
        intro c hc
        rw [print_eq_fill] at hc
        exact Mode.not_isDigit_of_isApart (head_isApart hclear.2 c hc)
      have hnumber : Piece.ofNumber n = .slot n := if_pos (show n < 2 ^ 64 by omega)
      rw [Piece.print, scanFrom_slot h1 hhead, ih hclear.2 ht, hnumber, mergeFrom]
      simp
    | wide n => exact hp.elim

/-- **A clear template is read back from its text with numbered placeholders.** -/
theorem scan_print {hi : Nat} (hhi : hi ≤ 2 ^ 64) {t : Template} {free : Bool}
    (hclear : Clear free t) (hwithin : t.Within 1 hi) : scan t.print = t.merge :=
  scanFrom_print hhi hclear hwithin []

end Template

end Sql

end DocStore
