import DocStore.Proofs.Sql.Tokens

/-!
# Quoted text in front of other text

`firstToken?` reads the token that a text begins with and leaves the text behind it.  The tokens of a
text are its first one and those of the rest (`tokens?_of_firstToken?`).

A string in quotes is the first token of whatever text it stands in front of, with its own characters
as the content, unless that text begins with a quote: two quotes in a row do not end a string.  So it
is with names and backquotes (`firstToken?_quoted_iff`).
-/

namespace DocStore

namespace Sql

/-- Read on to the end of a token; give the token and the characters behind it. -/
def takeToken : Mode → List Char → Option (List Token × List Char)
  | m, [] => m.finish.map fun done => (done, [])
  | m, c :: cs =>
    match m.extend c with
    | some longer => takeToken longer cs
    | none => m.finish.map fun done => (done, c :: cs)

/-- The token that a text begins with, and the text behind it. -/
def firstToken? (s : String) : Option (Token × String) :=
  match s.toList with
  | [] => none
  | c :: cs =>
    (takeToken (.first c) cs).bind fun r => r.1.head?.map fun t => (t, String.ofList r.2)

variable {m : Mode} {cs rest : List Char} {done : List Token} {t : Token}

/-! ### Whole texts -/

/-- A reader in front of everything begins a token. -/
theorem tokensFrom_start (c : Char) (cs : List Char) :
    tokensFrom .start (c :: cs) = tokensFrom (.first c) cs := by
  cases h : tokensFrom (.first c) cs <;> simp [tokensFrom, Mode.extend, Mode.finish, h]

/-- Reading a whole text is reading a token, and then what is behind it. -/
theorem tokensFrom_eq (m : Mode) (cs : List Char) :
    tokensFrom m cs =
      (takeToken m cs).bind fun r => (tokensFrom .start r.2).map fun ts => r.1 ++ ts := by
  induction cs generalizing m with
  | nil =>
    have hnil : tokensFrom .start [] = some [] := rfl
    rw [tokensFrom, takeToken]
    cases m.finish <;> simp [hnil]
  | cons c cs ih =>
    rw [tokensFrom, takeToken]
    cases m.extend c with
    | some longer => exact ih longer
    | none =>
      cases m.finish with
      | none => rfl
      | some done =>
        rw [Option.map_some, Option.bind_some, tokensFrom_start]
        cases tokensFrom (.first c) cs <;> rfl

/-- At most one token ends at a time. -/
theorem Mode.length_finish_le (h : m.finish = some done) : done.length ≤ 1 := by
  cases m with
  | start =>
    cases h
    exact Nat.zero_le 1
  | mark | word | nameEnd | stringEnd =>
    cases h
    exact Nat.le_refl 1
  | number =>
    rw [finish] at h
    split at h <;> cases h
    exact Nat.le_refl 1
  | name | string | escape => cases h

theorem length_takeToken_le (h : takeToken m cs = some (done, rest)) : done.length ≤ 1 := by
  induction cs generalizing m with
  | nil =>
    obtain ⟨_, hfinish, heq⟩ := Option.map_eq_some_iff.1 h
    cases heq
    exact Mode.length_finish_le hfinish
  | cons c cs ih =>
    rw [takeToken] at h
    split at h
    · exact ih h
    · obtain ⟨_, hfinish, heq⟩ := Option.map_eq_some_iff.1 h
      cases heq
      exact Mode.length_finish_le hfinish

/-- What is left behind a token is an end of the text. -/
theorem takeToken_suffix (h : takeToken m cs = some (done, rest)) : rest <:+ cs := by
  induction cs generalizing m with
  | nil =>
    obtain ⟨_, -, heq⟩ := Option.map_eq_some_iff.1 h
    cases heq
    exact List.suffix_refl []
  | cons c cs ih =>
    rw [takeToken] at h
    split at h
    · exact (ih h).trans (List.suffix_cons c cs)
    · obtain ⟨_, -, heq⟩ := Option.map_eq_some_iff.1 h
      cases heq
      exact List.suffix_refl (c :: cs)

theorem firstToken?_eq_some_iff {s behind : String} {c : Char} (hs : s.toList = c :: cs) :
    firstToken? s = some (t, behind) ↔ takeToken (.first c) cs = some ([t], behind.toList) := by
  rw [firstToken?, hs]
  constructor
  · intro h
    obtain ⟨⟨done, rest⟩, htake, h⟩ := Option.bind_eq_some_iff.1 h
    obtain ⟨u, hu, heq⟩ := Option.map_eq_some_iff.1 h
    cases heq
    -- the token is the only one that ends there
    have hlength := length_takeToken_le htake
    obtain ⟨others, rfl⟩ := List.head?_eq_some_iff.1 hu
    rw [List.length_cons] at hlength
    rw [htake, List.eq_nil_of_length_eq_zero (by omega : others.length = 0),
      String.toList_ofList]
  · intro h
    simp [h]

/-- **The tokens of a text are its first one and those of the rest.** -/
theorem tokens?_of_firstToken? {s behind : String} (h : firstToken? s = some (t, behind)) :
    tokens? s = (tokens? behind).map fun ts => t :: ts := by
  cases hs : s.toList with
  | nil => simp [firstToken?, hs] at h
  | cons c cs =>
    rw [tokens?, hs, tokensFrom_start, tokensFrom_eq, (firstToken?_eq_some_iff hs).1 h]
    rfl

/-! ### Quoted text -/

/-- Inside a string, the quoted form of characters is read as these. -/
theorem takeToken_string (read content cs rest : List Char) :
    takeToken (.string read content) (cs.flatMap stringChar ++ quoteMark :: rest) =
      takeToken (.stringEnd (quoteMark :: ((cs.flatMap stringChar).reverse ++ read))
        (cs.reverse ++ content)) rest := by
  induction cs generalizing read content with
  | nil => simp [takeToken, Mode.extend]
  | cons c cs ih =>
    by_cases hquote : c = quoteMark
    · subst hquote
      simpa [stringChar, takeToken, Mode.extend] using
        ih (quoteMark :: quoteMark :: read) (quoteMark :: content)
    · -- the backslash and the character `NUL` are escaped, all others stand for themselves
      by_cases hslash : c = '\\'
      · subst hslash
        simpa [stringChar, quoteMark, takeToken, Mode.extend, unescaped] using
          ih ('\\' :: '\\' :: read) ('\\' :: content)
      · by_cases hnul : c = '\x00'
        · subst hnul
          simpa [stringChar, quoteMark, takeToken, Mode.extend, unescaped] using
            ih ('0' :: '\\' :: read) ('\x00' :: content)
        · simpa [stringChar, hquote, hslash, hnul, takeToken, Mode.extend] using
            ih (c :: read) (c :: content)

/-- Inside a name, the quoted form of characters is read as these. -/
theorem takeToken_name (read content cs rest : List Char) :
    takeToken (.name read content) (cs.flatMap nameChar ++ backquote :: rest) =
      takeToken (.nameEnd (backquote :: ((cs.flatMap nameChar).reverse ++ read))
        (cs.reverse ++ content)) rest := by
  induction cs generalizing read content with
  | nil => simp [takeToken, Mode.extend]
  | cons c cs ih =>
    by_cases hc : c = backquote
    · subst hc
      simpa [nameChar, takeToken, Mode.extend] using
        ih (backquote :: backquote :: read) (backquote :: content)
    · simpa [nameChar, hc, takeToken, Mode.extend] using ih (c :: read) (c :: content)

theorem toList_quoteString_append (s rest : String) : (quoteString s ++ rest).toList =
    quoteMark :: (s.toList.flatMap stringChar ++ quoteMark :: rest.toList) := by
  simp [quoteString]

theorem toList_quoteName_append (name rest : String) : (quoteName name ++ rest).toList =
    backquote :: (name.toList.flatMap nameChar ++ backquote :: rest.toList) := by
  simp [quoteName]

/-- A token ends in front of a character that does not go on with it. -/
theorem takeToken_of_ends (hm : m.finish = some done) (h : m.Ends cs) :
    takeToken m cs = some (done, cs) := by
  cases cs with
  | nil => simp [takeToken, hm]
  | cons c cs => simp [takeToken, h c rfl, hm]

/-- Nothing is left that the token goes on with. -/
theorem takeToken_ne_of_extend {c : Char} {longer : Mode} (h : m.extend c = some longer) :
    takeToken m (c :: cs) ≠ some (done, c :: cs) := by
  intro htake
  rw [takeToken, h] at htake
  have hlength := (takeToken_suffix htake).length_le
  rw [List.length_cons] at hlength
  omega

/-- What stands behind a closed quotation is left if and only if it does not go on with it. -/
theorem takeToken_eq_some_iff (hm : m.finish = some done) (rest : List Char) :
    takeToken m rest = some (done, rest) ↔ m.Ends rest := by
  constructor
  · intro htake c hc
    obtain ⟨cs, rfl⟩ := List.head?_eq_some_iff.1 hc
    cases hextend : m.extend c with
    | none => rfl
    | some longer => exact absurd htake (takeToken_ne_of_extend hextend)
  · exact takeToken_of_ends hm

/-- A quoted string is the first token if and only if no quote stands behind it. -/
theorem firstToken?_quoteString_iff (s behind : String) :
    firstToken? (quoteString s ++ behind) = some (⟨.string s, quoteString s⟩, behind) ↔
      behind.toList.head? ≠ some quoteMark := by
  have hfirst : Mode.first quoteMark = .string [quoteMark] [] := rfl
  rw [firstToken?_eq_some_iff (toList_quoteString_append s behind), hfirst, takeToken_string,
    takeToken_eq_some_iff (by simp [Mode.finish, quoteString])]
  cases behind.toList with
  | nil => simp [Mode.Ends]
  | cons c cs => simp [Mode.Ends, Mode.extend]

/-- A quoted name is the first token if and only if no backquote stands behind it. -/
theorem firstToken?_quoteName_iff (name behind : String) :
    firstToken? (quoteName name ++ behind) = some (⟨.name name, quoteName name⟩, behind) ↔
      behind.toList.head? ≠ some backquote := by
  have hfirst : Mode.first backquote = .name [backquote] [] := rfl
  rw [firstToken?_eq_some_iff (toList_quoteName_append name behind), hfirst, takeToken_name,
    takeToken_eq_some_iff (by simp [Mode.finish, quoteName])]
  cases behind.toList with
  | nil => simp [Mode.Ends]
  | cons c cs => simp [Mode.Ends, Mode.extend]

/-- **Quotes are undone in any context.**  The first token of a quoted string with text behind it is
exactly the quoted string and holds the string, whatever characters it has, if and only if the text
does not begin with a quote; and so with quoted names and backquotes. -/
theorem firstToken?_quoted_iff (content behind : String) :
    (firstToken? (quoteString content ++ behind) =
        some (⟨.string content, quoteString content⟩, behind) ↔
      behind.toList.head? ≠ some quoteMark) ∧
    (firstToken? (quoteName content ++ behind) =
        some (⟨.name content, quoteName content⟩, behind) ↔
      behind.toList.head? ≠ some backquote) :=
  ⟨firstToken?_quoteString_iff content behind, firstToken?_quoteName_iff content behind⟩

-- two strings in a row are one, with a quote between them
example : firstToken? (quoteString "a" ++ quoteString "b") =
    some (⟨.string "a'b", "'a''b'"⟩, "") := by
  decide +kernel

end Sql

end DocStore
