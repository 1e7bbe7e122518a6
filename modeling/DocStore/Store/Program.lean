import DocStore.Engine.Attempt
import DocStore.Engine.Session

/-!
# Programs

An operation of the store is a `Program`: a finite course of events and commands, which may depend
on the answers to earlier commands, and which ends with a value or a fault.  A program says nothing
about the engine; `Program.run` carries it out over a session.
-/

namespace DocStore

/-- A course of events and commands with a result. -/
inductive Program (α : Type) where
  | done (result : Except Fault α)
  | note (e : Event) (next : Program α)
  | execute (c : Command) (next : Except Fault Nat → Program α)
  | query (c : Command) (next : Except Fault (List Row) → Program α)
  | close (next : Except Fault Unit → Program α)

namespace Program

variable {α γ : Type}

/-- One program, and behind its value another; a fault ends both. -/
def bind (p : Program α) (f : α → Program γ) : Program γ :=
  match p with
  | .done (.ok v) => f v
  | .done (.error fault) => .done (.error fault)
  | .note e next => .note e (next.bind f)
  | .execute c next => .execute c fun r => (next r).bind f
  | .query c next => .query c fun r => (next r).bind f
  | .close next => .close fun r => (next r).bind f

/-- Something is put behind the end of a program, and its events and calls stay as they are. -/
structure Continues (k : Program α → Program γ) : Prop where
  note (e : Event) (next : Program α) : k (.note e next) = .note e (k next)
  execute (c : Command) (next : Except Fault Nat → Program α) :
    k (.execute c next) = .execute c fun r => k (next r)
  query (c : Command) (next : Except Fault (List Row) → Program α) :
    k (.query c next) = .query c fun r => k (next r)
  close (next : Except Fault Unit → Program α) : k (.close next) = .close fun r => k (next r)

/-- What is put behind a program is told by what is put behind its ends. -/
theorem Continues.ext {k l : Program α → Program γ} (hk : Continues k) (hl : Continues l)
    (h : ∀ r, k (.done r) = l (.done r)) (p : Program α) : k p = l p := by
  induction p with
  | done r => exact h r
  | note e next ih => rw [hk.note, hl.note, ih]
  | execute c next ih => simp only [hk.execute, hl.execute, ih]
  | query c next ih => simp only [hk.query, hl.query, ih]
  | close next ih => simp only [hk.close, hl.close, ih]

theorem bind_assoc {δ : Type} (p : Program α) (f : α → Program γ) (g : γ → Program δ) :
    (p.bind f).bind g = p.bind fun v => (f v).bind g := by
  have hleft : Continues fun p : Program α => (p.bind f).bind g :=
    ⟨fun _ _ => rfl, fun _ _ => rfl, fun _ _ => rfl, fun _ => rfl⟩
  have hright : Continues fun p : Program α => p.bind fun v => (f v).bind g :=
    ⟨fun _ _ => rfl, fun _ _ => rfl, fun _ _ => rfl, fun _ => rfl⟩
  exact hleft.ext hright (fun r => by cases r <;> rfl) p

theorem bind_done (p : Program α) : (p.bind fun v => .done (.ok v)) = p := by
  have hbind : Continues fun p : Program α => p.bind fun v => .done (.ok v) :=
    ⟨fun _ _ => rfl, fun _ _ => rfl, fun _ _ => rfl, fun _ => rfl⟩
  have hself : Continues fun p : Program α => p :=
    ⟨fun _ _ => rfl, fun _ _ => rfl, fun _ _ => rfl, fun _ => rfl⟩
  exact hbind.ext hself (fun r => by cases r <;> rfl) p

instance : Monad Program where
  pure v := .done (.ok v)
  bind := Program.bind

instance : LawfulMonad Program :=
  LawfulMonad.mk' Program bind_done (fun _ _ => rfl) bind_assoc

/-- A program that fails. -/
def fail (fault : Fault) : Program α := .done (.error fault)

instance : MonadLift (Except Fault) Program := ⟨.done⟩

/-- The result of a program as a value, be it a fault or not. -/
def attempt : Program α → Program (Except Fault α)
  | .done r => .done (.ok r)
  | .note e next => .note e next.attempt
  | .execute c next => .execute c fun r => (next r).attempt
  | .query c next => .query c fun r => (next r).attempt
  | .close next => .close fun r => (next r).attempt

namespace Continues

theorem id : Continues fun p : Program α => p :=
  ⟨fun _ _ => rfl, fun _ _ => rfl, fun _ _ => rfl, fun _ => rfl⟩

theorem bind (f : α → Program γ) : Continues fun p : Program α => p >>= f :=
  ⟨fun _ _ => rfl, fun _ _ => rfl, fun _ _ => rfl, fun _ => rfl⟩

theorem attempt : Continues fun p : Program α => p.attempt :=
  ⟨fun _ _ => rfl, fun _ _ => rfl, fun _ _ => rfl, fun _ => rfl⟩

theorem attempt_bind (f : Except Fault α → Program γ) :
    Continues fun p : Program α => p.attempt >>= f :=
  ⟨fun _ _ => rfl, fun _ _ => rfl, fun _ _ => rfl, fun _ => rfl⟩

end Continues

/-- Report an event. -/
def report (e : Event) : Program Unit := .note e (.done (.ok ()))

/-- Carry out a command; the number of affected rows does not matter. -/
def perform (c : Command) : Program Unit := .execute c fun r => .done (r.map fun _ => ())

/-- The rows of a command. -/
def rows (c : Command) : Program (List Row) := .query c .done

/-- Carry on with the result of an attempt; none if it failed without harm. -/
def settle (a : Attempt) (className : String) (r : Except Fault α) : Program (Option α) :=
  match r with
  | .ok v => .done (.ok (some v))
  | .error fault =>
    match a.verdict className fault with
    | none => .note (a.notice className fault) (.done (.ok none))
    | some reported => .done (.error reported)

/-- Carry out a command as an attempt. -/
def executeAs (a : Attempt) (className : String) (c : Command) : Program (Option Nat) :=
  .execute c (settle a className)

/-- The rows of a command carried out as an attempt. -/
def queryAs (a : Attempt) (className : String) (c : Command) : Program (Option (List Row)) :=
  .query c (settle a className)

/-- Carry a program out over a session. -/
def run {ω β : Type} (engine : Engine ω β) :
    Program α → Session ω β → Session ω β × Except Fault α
  | .done r, s => (s, r)
  | .note e next, s => next.run engine (s.note e)
  | .execute c next, s =>
    let (s, r) := s.execute engine c
    (next r).run engine s
  | .query c next, s =>
    let (s, r) := s.query engine c
    (next r).run engine s
  | .close next, s =>
    let (s, r) := s.close engine
    (next r).run engine s

end Program

end DocStore
