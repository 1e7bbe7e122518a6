import DocStore.Fault
import DocStore.Row.Decoding

/-!
# Engines

An `Engine` says how a database answers.  Its answers may depend on a state of the world, and on a
handle for each open connection; nothing else is assumed.
-/

namespace DocStore

/-- How a database answers: `ω` is the state of the world, `β` that of an open connection. -/
structure Engine (ω β : Type) where
  /-- Open a connection to an address. -/
  connect : String → ω → Except Fault β × ω
  /-- Carry out a text and count the affected rows. -/
  execute : String → β → ω → Except Fault Nat × β × ω
  /-- Carry out a text and give its rows. -/
  query : String → β → ω → Except Fault (List Row) × β × ω
  /-- Ask an open connection whether it can be used. -/
  isConnected : β → ω → Bool × ω
  close : β → ω → Except Fault Unit × ω

end DocStore
