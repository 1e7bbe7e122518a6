import DocStore.Engine.Basic

/-!
# Scripted engines

An engine that gives prepared answers, whatever it is asked.  A script that has run out succeeds
with nothing: no rows are affected and none are found.
-/

namespace DocStore

/-- A prepared answer to a statement. -/
structure Reply where
  /-- The statement fails. -/
  fault : Option Fault
  /-- The number of affected rows. -/
  affected : Nat
  rows : List Row
  /-- From now on the connection says that it cannot be used. -/
  breaks : Bool
  deriving DecidableEq, Repr

/-- Prepared answers. -/
structure Script where
  replies : List Reply
  /-- One entry for every attempt to connect: the fault with which it fails, if it does. -/
  connects : List (Option Fault)
  /-- The fault with which closing fails. -/
  close : Option Fault
  deriving DecidableEq, Repr

/-- An open connection of a scripted engine. -/
inductive Line where
  | sound
  | broken
  deriving DecidableEq, Repr

namespace Script

/-- No answers. -/
def empty : Script := ⟨[], [], none⟩

/-- A failure, or else a value. -/
def failOr {α : Type} (fault : Option Fault) (v : α) : Except Fault α :=
  match fault with
  | some f => .error f
  | none => .ok v

/-- The next reply. -/
def next (s : Script) : Reply × Script :=
  match s.replies with
  | [] => (⟨none, 0, [], false⟩, s)
  | r :: rest => (r, { s with replies := rest })

/-- The state of a line after a reply. -/
def lineAfter (line : Line) (r : Reply) : Line := if r.breaks then .broken else line

/-- The engine that answers by a script. -/
def engine : Engine Script Line where
  connect _ s :=
    match s.connects with
    | [] => (.ok .sound, s)
    | fault :: rest => (failOr fault .sound, { s with connects := rest })
  execute _ line s :=
    let (r, s) := s.next
    (failOr r.fault r.affected, lineAfter line r, s)
  query _ line s :=
    let (r, s) := s.next
    (failOr r.fault r.rows, lineAfter line r, s)
  isConnected line s := (line = .sound, s)
  close _ s := (failOr s.close (), s)

end Script

end DocStore
