import Mathlib.Data.List.Forall2

/-!
# Boolean expressions

Conditions have one of the three truth values of SQL (`Truth`).  An `Expr` connects atoms by "and"
and "or".  Two expressions agree if their atoms correspond one to one in their order and they have
the same value whatever values the atoms have, each for itself (`Expr.Agrees`).
-/

namespace DocStore

namespace Sql

/-- The truth values of SQL. -/
inductive Truth where
  | no
  | unknown
  | yes
  deriving DecidableEq, Repr

namespace Truth

/-- False if one is, true if both are. -/
def and : Truth → Truth → Truth
  | .no, _ => .no
  | _, .no => .no
  | .yes, b => b
  | .unknown, _ => .unknown

/-- True if one is, false if both are. -/
def or : Truth → Truth → Truth
  | .yes, _ => .yes
  | _, .yes => .yes
  | .no, b => b
  | .unknown, _ => .unknown

@[simp] theorem and_yes (a : Truth) : a.and .yes = a := by cases a <;> rfl

@[simp] theorem yes_and (a : Truth) : yes.and a = a := by cases a <;> rfl

theorem and_assoc (a b c : Truth) : (a.and b).and c = a.and (b.and c) := by
  cases a <;> cases b <;> cases c <;> rfl

end Truth

/-- A boolean expression over atoms. -/
inductive Expr (α : Type) where
  | truth
  | atom (a : α)
  | and (a b : Expr α)
  | or (a b : Expr α)
  deriving DecidableEq, Repr

namespace Expr

variable {α β γ : Type}

/-- The value of an expression, given those of its atoms. -/
def value (σ : α → Truth) : Expr α → Truth
  | .truth => .yes
  | .atom a => σ a
  | .and a b => (a.value σ).and (b.value σ)
  | .or a b => (a.value σ).or (b.value σ)

/-- The atoms from left to right. -/
def atoms : Expr α → List α
  | .truth => []
  | .atom a => [a]
  | .and a b | .or a b => a.atoms ++ b.atoms

/-- Expressions in place of atoms. -/
def bind (f : α → Expr β) : Expr α → Expr β
  | .truth => .truth
  | .atom a => f a
  | .and a b => .and (a.bind f) (b.bind f)
  | .or a b => .or (a.bind f) (b.bind f)

/-- Other atoms. -/
def map (f : α → β) : Expr α → Expr β
  | .truth => .truth
  | .atom a => .atom (f a)
  | .and a b => .and (a.map f) (b.map f)
  | .or a b => .or (a.map f) (b.map f)

/-- The atoms numbered from left to right, so that each can have a value of its own. -/
def number (n : Nat) : Expr α → Expr Nat
  | .truth => .truth
  | .atom _ => .atom n
  | .and a b => .and (a.number n) (b.number (n + a.atoms.length))
  | .or a b => .or (a.number n) (b.number (n + a.atoms.length))

/-- Expressions connected by "and"; nothing holds. -/
def conj : List (Expr α) → Expr α
  | [] => .truth
  | [e] => e
  | e :: es => .and e (conj es)

/-- Expressions connected by "or", of which there must be one. -/
def disj : List (Expr α) → Expr α
  | [] => .truth
  | [e] => e
  | e :: es => .or e (disj es)

theorem bind_conj (f : α → Expr β) (es : List (Expr α)) :
    (conj es).bind f = conj (es.map (bind f)) := by
  induction es with
  | nil => rfl
  | cons e es ih =>
    cases es with
    | nil => rfl
    | cons e' es => exact congrArg (Expr.and (e.bind f)) ih

theorem bind_disj (f : α → Expr β) (es : List (Expr α)) :
    (disj es).bind f = disj (es.map (bind f)) := by
  induction es with
  | nil => rfl
  | cons e es ih =>
    cases es with
    | nil => rfl
    | cons e' es => exact congrArg (Expr.or (e.bind f)) ih

theorem atoms_map (f : α → β) (e : Expr α) : (e.map f).atoms = e.atoms.map f := by
  induction e with
  | truth | atom a => rfl
  | and a b iha ihb | or a b iha ihb => simp [map, atoms, iha, ihb]

theorem number_map (f : α → β) (n : Nat) (e : Expr α) : (e.map f).number n = e.number n := by
  induction e generalizing n with
  | truth | atom a => rfl
  | and a b iha ihb | or a b iha ihb => simp [map, number, iha, ihb, atoms_map]

theorem bind_map (f : α → β) (g : β → Expr γ) (e : Expr α) :
    (e.map f).bind g = e.bind fun a => g (f a) := by
  induction e with
  | truth | atom a => rfl
  | and a b iha ihb | or a b iha ihb => simp [map, bind, iha, ihb]

theorem bind_congr {f g : α → Expr β} {e : Expr α} (h : ∀ a ∈ e.atoms, f a = g a) :
    e.bind f = e.bind g := by
  induction e with
  | truth => rfl
  | atom a => exact h a (by simp [atoms])
  | and a b iha ihb | or a b iha ihb =>
    simp only [atoms, List.mem_append] at h
    simp [bind, iha fun c hc => h c (.inl hc), ihb fun c hc => h c (.inr hc)]

theorem map_conj (f : α → β) (es : List (Expr α)) : (conj es).map f = conj (es.map (map f)) := by
  induction es with
  | nil => rfl
  | cons e es ih =>
    cases es with
    | nil => rfl
    | cons e' es => exact congrArg (Expr.and (e.map f)) ih

theorem conj_cons_cons (a b : Expr α) (es : List (Expr α)) :
    conj (a :: b :: es) = .and a (conj (b :: es)) := rfl

theorem atoms_conj (es : List (Expr α)) : (conj es).atoms = es.flatMap atoms := by
  induction es with
  | nil => rfl
  | cons e es ih =>
    cases es with
    | nil => simp [conj]
    | cons e' es => simp [conj_cons_cons, atoms, ih]

theorem atoms_disj (es : List (Expr α)) : (disj es).atoms = es.flatMap atoms := by
  induction es with
  | nil => rfl
  | cons e es ih =>
    cases es with
    | nil => simp [disj]
    | cons e' es =>
      have hcons : disj (e :: e' :: es) = .or e (disj (e' :: es)) := rfl
      simp [hcons, atoms, ih]

theorem value_conj_cons (e : Expr α) (es : List (Expr α)) (n : Nat) (σ : Nat → Truth) :
    ((conj (e :: es)).number n).value σ =
      ((e.number n).value σ).and (((conj es).number (n + e.atoms.length)).value σ) := by
  cases es with
  | nil => exact (Truth.and_yes _).symm
  | cons e' es => rfl

theorem value_conj_append (es fs : List (Expr α)) (n : Nat) (σ : Nat → Truth) :
    ((conj (es ++ fs)).number n).value σ =
      (((conj es).number n).value σ).and
        (((conj fs).number (n + (conj es).atoms.length)).value σ) := by
  induction es generalizing n with
  | nil => exact (Truth.yes_and _).symm
  | cons e es ih =>
    have hlength : (conj (e :: es)).atoms.length = e.atoms.length + (conj es).atoms.length := by
      simp [atoms_conj]
    rw [List.cons_append, value_conj_cons, ih, value_conj_cons, Truth.and_assoc, hlength,
      Nat.add_assoc]

/-! ### Agreement -/

/-- Two expressions have related atoms in the same order, and the same value whatever values these
have. -/
structure Agrees (R : α → β → Prop) (a : Expr α) (b : Expr β) : Prop where
  atoms : List.Forall₂ R a.atoms b.atoms
  value : ∀ (n : Nat) (σ : Nat → Truth), (a.number n).value σ = (b.number n).value σ

namespace Agrees

variable {R : α → β → Prop} {S : β → γ → Prop} {a c : Expr α} {b d : Expr β} {e : Expr γ}

theorem truth : Agrees R .truth .truth := ⟨.nil, fun _ _ => rfl⟩

theorem atom {x : α} {y : β} (h : R x y) : Agrees R (.atom x) (.atom y) :=
  ⟨.cons h .nil, fun _ _ => rfl⟩

theorem length (h : Agrees R a b) : a.atoms.length = b.atoms.length := h.atoms.length_eq

theorem or (hab : Agrees R a b) (hcd : Agrees R c d) : Agrees R (.or a c) (.or b d) where
  atoms := List.rel_append hab.atoms hcd.atoms
  value n σ := by simp only [number, Expr.value, hab.value, hcd.value, hab.length]

theorem trans {T : α → γ → Prop} (hab : Agrees R a b) (hbe : Agrees S b e)
    (hT : ∀ x y z, R x y → S y z → T x z) : Agrees T a e where
  atoms := by
    have hb := hbe.atoms
    have ha := hab.atoms
    -- the induction is on the first correspondence, whatever list is in the middle
    generalize a.atoms = as at ha
    generalize b.atoms = bs at ha hb
    generalize e.atoms = es at hb
    induction ha generalizing es with
    | nil =>
      cases hb
      exact .nil
    | cons hxy _ ih =>
      cases hb with
      | cons hyz htail => exact .cons (hT _ _ _ hxy hyz) (ih _ htail)
  value n σ := (hab.value n σ).trans (hbe.value n σ)

theorem exists_of_mem (h : Agrees R a b) {y : β} (hy : y ∈ b.atoms) : ∃ x, R x y := by
  have hatoms := h.atoms
  generalize a.atoms = xs at hatoms
  generalize b.atoms = ys at hatoms hy
  induction hatoms with
  | nil => simp at hy
  | cons hxy _ ih =>
    rcases List.mem_cons.1 hy with rfl | hy
    · exact ⟨_, hxy⟩
    · exact ih hy

theorem exists_mem (h : Agrees R a b) {x : α} (hx : x ∈ a.atoms) : ∃ y ∈ b.atoms, R x y := by
  have hatoms := h.atoms
  generalize a.atoms = xs at hatoms hx
  generalize b.atoms = ys at hatoms
  induction hatoms with
  | nil => simp at hx
  | cons hxy _ ih =>
    rcases List.mem_cons.1 hx with rfl | hx
    · exact ⟨_, List.mem_cons_self, hxy⟩
    · obtain ⟨y, hy, hR⟩ := ih hx
      exact ⟨y, List.mem_cons_of_mem _ hy, hR⟩

/-- Other atoms on the right. -/
theorem map_right {f : β → γ} {T : α → γ → Prop} (h : Agrees R a b)
    (hT : ∀ x y, R x y → T x (f y)) : Agrees T a (b.map f) where
  atoms := by
    rw [atoms_map]
    exact List.forall₂_map_right_iff.2 (h.atoms.imp hT)
  value n σ := by rw [number_map, h.value]

/-- A conjunct may stand for several, or for none if it holds. -/
theorem conj_cons {es : List (Expr α)} {fs gs : List (Expr β)} (hfs : Agrees R a (.conj fs))
    (hgs : Agrees R (.conj es) (.conj gs)) : Agrees R (.conj (a :: es)) (.conj (fs ++ gs)) where
  atoms := by
    have hatoms := List.rel_append hfs.atoms hgs.atoms
    simpa only [atoms_conj, List.flatMap_cons, List.flatMap_append] using hatoms
  value n σ := by
    rw [value_conj_cons, value_conj_append, hfs.value, hgs.value, hfs.length]

theorem conj {as : List (Expr α)} {bs : List (Expr β)} (h : List.Forall₂ (Agrees R) as bs) :
    Agrees R (conj as) (Expr.conj bs) := by
  induction h with
  | nil => exact truth
  | @cons a b as bs hab _ ih =>
    have hsingle : Agrees R a (Expr.conj [b]) := hab
    exact hsingle.conj_cons ih

theorem disj {as : List (Expr α)} {bs : List (Expr β)} (h : List.Forall₂ (Agrees R) as bs) :
    Agrees R (disj as) (Expr.disj bs) := by
  induction h with
  | nil => exact truth
  | cons hab htail ih =>
    cases htail with
    | nil => exact hab
    | cons h _ => exact hab.or ih

end Agrees

end Expr

end Sql

end DocStore
