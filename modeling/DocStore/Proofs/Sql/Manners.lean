import DocStore.Sql.Statement

/-!
# Manners of templates

A `Manner` is what is asked of the pieces of a template, read from left to right: which texts may
stand in a state of the reader, whether a placeholder may, and which state they leave.  A template
*fits* a manner from a state on if its pieces may stand there one behind the other
(`Template.Fits`).

Where a placeholder leaves the reader there is least room: what may stand there may stand anywhere
(`Template.Fits.weaken`).  So templates that fit there may be put behind any others
(`Template.Fits.append`), and what a statement is put together from is looked at part by part.
-/

namespace DocStore

namespace Sql

/-- What is asked of the pieces of a template, read from left to right. -/
structure Manner (σ : Type) where
  /-- The texts that may stand in a state. -/
  text : σ → String → Bool
  /-- The states in which a placeholder may stand. -/
  slot : σ → Bool
  /-- The state behind a text. -/
  behind : σ → String → σ
  /-- The state behind a placeholder. -/
  least : σ
  /-- A text that may stand in the least state may stand in any, and what follows it stands in the
  same state there, or again in the least. -/
  text_of_least (st : σ) (s : String) : text least s = true →
    text st s = true ∧ (behind least s = least ∨ behind st s = behind least s)
  slot_of_least (st : σ) : slot least = true → slot st = true

namespace Template

variable {σ : Type} {m : Manner σ}

/-- The template fits a manner from a state on. -/
def Fits (m : Manner σ) : σ → Template → Prop
  | _, [] => True
  | st, .text s :: t => m.text st s = true ∧ Fits m (m.behind st s) t
  | st, .slot _ :: t => m.slot st = true ∧ Fits m m.least t
  | _, .wide _ :: _ => False

namespace Fits

variable {st st' : σ} {s : String} {n : Nat} {t u : Template} {parts : List Template}

/-- What fits behind a placeholder fits anywhere. -/
theorem weaken (h : Fits m m.least t) : Fits m st t := by
  induction t generalizing st with
  | nil => trivial
  | cons p t ih =>
    cases p with
    | text s =>
      obtain ⟨hs, ht⟩ := h
      obtain ⟨hst, hleast | hsame⟩ := m.text_of_least st s hs
      · rw [hleast] at ht
        exact ⟨hst, ih ht⟩
      · rw [← hsame] at ht
        exact ⟨hst, ht⟩
    | slot n => exact ⟨m.slot_of_least st h.1, h.2⟩
    | wide n => exact h.elim

theorem append (ht : Fits m st t) (hu : Fits m m.least u) : Fits m st (t ++ u) := by
  induction t generalizing st with
  | nil => exact hu.weaken
  | cons p t ih =>
    cases p with
    | text s | slot n => exact ⟨ht.1, ih ht.2⟩
    | wide n => exact ht.elim

theorem shift (h : Fits m st t) (k : Nat) : Fits m st (t.shift k) := by
  induction t generalizing st with
  | nil => trivial
  | cons p t ih =>
    cases p with
    | text s | slot n => exact ⟨h.1, ih h.2⟩
    | wide n => exact h.elim

/-! Templates that are put together, read from left to right.  What must hold of a fixed text is
computed, so that `rfl` proves it. -/

theorem nil : Fits m st (sql []) := trivial

theorem text (hs : m.text st s = true) (h : Fits m (m.behind st s) (sql parts)) :
    Fits m st (sql ([.text s] :: parts)) := ⟨hs, h⟩

theorem slot (hst : m.slot st = true) (h : Fits m m.least (sql parts)) :
    Fits m st (sql (.slot n :: parts)) := ⟨hst, h⟩

theorem part (ht : Fits m st' t) (hst : st = st') (h : Fits m m.least (sql parts)) :
    Fits m st (sql (t :: parts)) := by
  subst hst
  exact ht.append h

/-- A part that fits wherever it stands. -/
theorem apart (ht : Fits m m.least t) (h : Fits m m.least (sql parts)) :
    Fits m st (sql (t :: parts)) :=
  append ht.weaken h

theorem join {separator : String} (hs : m.text m.least separator = true)
    (hst : m.behind m.least separator = st) (h : ∀ t ∈ parts, Fits m st t) :
    Fits m st (Template.join separator parts) := by
  induction parts with
  | nil => trivial
  | cons t rest ih =>
    have ht := h t List.mem_cons_self
    have hrest := ih fun u hu => h u (List.mem_cons_of_mem _ hu)
    cases rest with
    | nil => exact ht
    | cons u rest =>
      refine ht.append ⟨hs, ?_⟩
      rw [hst]
      exact hrest

theorem flatten (h : ∀ t ∈ parts, Fits m m.least t) : Fits m m.least parts.flatten := by
  induction parts with
  | nil => trivial
  | cons t rest ih =>
    exact (h t List.mem_cons_self).append (ih fun u hu => h u (List.mem_cons_of_mem _ hu))

theorem slotsFrom (hst : m.slot st = true) (count : Nat) :
    ∀ t ∈ Sql.slotsFrom n count, Fits m st t := by
  intro t ht
  obtain ⟨i, -, rfl⟩ := List.mem_map.1 ht
  exact ⟨hst, trivial⟩

end Fits

end Template

end Sql

end DocStore
