/-!
# Statement texts with numbered placeholders

A `Template` is SQL text in pieces: plain text, and placeholders that refer to a statement's
parameters by number, written `$1`, `$2` and so on.  Templates that are built separately are put
together by moving the placeholders of one behind the parameters of the other
(`Template.shift`).

`Template.scan` reads a template from its text.  A placeholder is a dollar sign and a number
without a leading zero; any other dollar sign is plain text.
-/

namespace DocStore

namespace Sql

/-- A piece of a template. -/
inductive Piece where
  | text (s : String)
  /-- The placeholder of parameter `n`, counted from one. -/
  | slot (n : Nat)
  /-- A placeholder whose number does not fit a machine word. -/
  | wide (n : Nat)
  deriving DecidableEq, Repr

/-- SQL text with placeholders. -/
abbrev Template := List Piece

instance : Coe String Template := ⟨fun s => [.text s]⟩

namespace Piece

/-- The text of a piece. -/
def print : Piece → String
  | .text s => s
  | .slot n => "$" ++ toString n
  | .wide n => "$" ++ toString n

/-- The piece behind `k` more parameters.  A number that fits no machine word counts as zero,
unless nothing is in front of it.  The sum of two numbers is not held against the bound of a machine
word: a placeholder close to the bound, which no list of parameters reaches, stays a slot beyond
it. -/
def shift (k : Nat) : Piece → Piece
  | .text s => .text s
  | .slot n => .slot (n + k)
  | .wide n => if k = 0 then .wide n else .slot k

@[simp]
theorem shift_zero (p : Piece) : p.shift 0 = p := by
  cases p <;> simp [shift]

theorem shift_shift (p : Piece) (j k : Nat) : (p.shift j).shift k = p.shift (j + k) := by
  cases p with
  | text s => rfl
  | slot n => simp [shift, Nat.add_assoc]
  | wide n =>
    by_cases hj : j = 0
    · subst hj
      simp [shift]
    · simp [shift, hj]

/-- The placeholder with a given number. -/
def ofNumber (n : Nat) : Piece := if n < Nat.pow 2 64 then .slot n else .wide n

end Piece

/-- Templates one behind the other. -/
def sql (parts : List Template) : Template := parts.flatten

namespace Template

/-- The placeholder of parameter `n`. -/
def slot (n : Nat) : Template := [.slot n]

/-- The text of a template. -/
def print (t : Template) : String := String.join (t.map Piece.print)

/-- The template behind `k` more parameters. -/
def shift (k : Nat) (t : Template) : Template := t.map (Piece.shift k)

@[simp]
theorem shift_zero (t : Template) : t.shift 0 = t := by
  induction t with
  | nil => rfl
  | cons p t ih => simp only [shift, List.map_cons, Piece.shift_zero] at ih ⊢; rw [ih]

theorem shift_shift (t : Template) (j k : Nat) : (t.shift j).shift k = t.shift (j + k) := by
  simp [shift, Function.comp_def, Piece.shift_shift]

theorem shift_append (t u : Template) (k : Nat) : (t ++ u).shift k = t.shift k ++ u.shift k := by
  simp [shift]

theorem print_cons (p : Piece) (t : Template) : print (p :: t) = p.print ++ print t := by
  simp [print, String.join_cons]

theorem print_append (t u : Template) : print (t ++ u) = t.print ++ u.print := by
  induction t with
  | nil => simp [print]
  | cons p t ih => rw [List.cons_append, print_cons, ih, print_cons, String.append_assoc]

/-- Templates with a separating text between them. -/
def join (separator : String) : List Template → Template
  | [] => []
  | [t] => t
  | t :: ts => t ++ .text separator :: join separator ts

/-- Where the scanner stands: inside plain text, behind a dollar sign, or inside a number.  Plain
text is kept with its last character first. -/
inductive Scan where
  | plain (read : List Char)
  | dollar (read : List Char)
  | number (n : Nat)

/-- The piece for plain text, if there is any. -/
def flush (read : List Char) : Template :=
  if read.isEmpty then [] else [.text (String.ofList read.reverse)]

/-- Read the rest of a template. -/
def scanFrom : Scan → List Char → Template
  | .plain read, [] => flush read
  | .dollar read, [] => flush ('$' :: read)
  | .number n, [] => [.ofNumber n]
  | .plain read, c :: cs =>
    if c = '$' then scanFrom (.dollar read) cs else scanFrom (.plain (c :: read)) cs
  | .dollar read, c :: cs =>
    if c = '$' then scanFrom (.dollar ('$' :: read)) cs
    else if c.isDigit ∧ c ≠ '0' then flush read ++ scanFrom (.number (c.toNat - 48)) cs
    else scanFrom (.plain (c :: '$' :: read)) cs
  | .number n, c :: cs =>
    if c.isDigit then scanFrom (.number (n * 10 + (c.toNat - 48))) cs
    else .ofNumber n :: scanFrom (if c = '$' then .dollar [] else .plain [c]) cs

/-- Read a template from its text. -/
def scan (text : String) : Template := scanFrom (.plain []) text.toList

end Template

end Sql

end DocStore
