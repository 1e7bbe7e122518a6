import DocStore.Command.Basic
import DocStore.Engine.Address
import DocStore.Engine.Basic
import DocStore.Event

/-!
# Sessions

A `Session` is the store's one connection to an engine.  It is opened by the first command and
opened anew when the engine's handle says that it cannot be used any more; a failure of the
transport gives it up.

A command is written as SQL before anything else happens, so that one that cannot be written never
reaches the engine.  The session keeps a record of the calls made and of the events on the way.
-/

namespace DocStore

/-- Where a session stands. -/
inductive Phase where
  | disconnected
  /-- An attempt to connect is under way. -/
  | connecting
  | connected
  /-- The last attempt or call lost the transport. -/
  | failed
  | closed
  deriving DecidableEq, Repr

namespace Phase

/-- The name of a phase. -/
def name : Phase → String
  | .disconnected => "disconnected"
  | .connecting => "connecting"
  | .connected => "connected"
  | .failed => "failed"
  | .closed => "closed"

end Phase

/-- A call that reached the engine. -/
inductive Call where
  | connect (url : String)
  | execute (text : String)
  | query (text : String)
  | close
  deriving DecidableEq, Repr

/-- A connection to an engine, with a record of what happened. -/
structure Session (ω β : Type) where
  url : String
  world : ω
  phase : Phase
  /-- The open connection, if there is one. -/
  handle : Option β
  calls : List Call
  events : List Event

namespace Session

variable {ω β : Type}

/-- A session that has not been opened. -/
def start (url : String) (world : ω) : Session ω β :=
  ⟨url, world, .disconnected, none, [], []⟩

/-- A session over an open connection. -/
def opened (url : String) (handle : β) (world : ω) : Session ω β :=
  ⟨url, world, .connected, some handle, [], []⟩

/-- Record an event. -/
def note (s : Session ω β) (e : Event) : Session ω β := { s with events := s.events ++ [e] }

/-- Record a call. -/
def called (s : Session ω β) (c : Call) : Session ω β := { s with calls := s.calls ++ [c] }

/-- The address as a detail of events. -/
def urlDetail (s : Session ω β) : String × String := ("url", Address.redact s.url)

/-- Open a new connection. -/
def connect (engine : Engine ω β) (s : Session ω β) : Session ω β × Except Fault β :=
  let s := { s with phase := .connecting, handle := none }
  let (answer, world) := engine.connect s.url s.world
  let s := { s with world }.called (.connect s.url)
  match answer with
  | .ok handle =>
    ({ s with phase := .connected, handle := some handle }.note
      ⟨.info, "connected", [s.urlDetail]⟩, .ok handle)
  | .error fault =>
    ({ s with phase := .failed }.note
      (.warn ("connect failed: " ++ fault.message) [s.urlDetail]), .error fault)

/-- The connection in use, opened if there is none that can be used. -/
def ensureOpen (engine : Engine ω β) (s : Session ω β) : Session ω β × Except Fault β :=
  match s.handle with
  | none => s.connect engine
  | some handle =>
    let (usable, world) := engine.isConnected handle s.world
    let s := { s with world }
    if usable then (s, .ok handle) else s.connect engine

/-- Give the connection up if its transport was lost. -/
def settle (fault : Fault) (s : Session ω β) : Session ω β :=
  if fault.isConnectionLoss then
    { s with phase := .failed, handle := none }.note
      (.warn ("dropping connection after transport error: " ++ fault.message) [])
  else s

/-- Send a text over a connection. -/
def sendOver {α : Type} (send : String → β → ω → Except Fault α × β × ω) (call : String → Call)
    (text : String) (handle : β) (s : Session ω β) : Session ω β × Except Fault α :=
  let (answer, handle, world) := send text handle s.world
  let s := { s with world, handle := some handle }.called (call text)
  match answer with
  | .ok v => (s, .ok v)
  | .error fault => (s.settle fault, .error fault)

/-- Send a text, over the connection in use. -/
def send {α : Type} (engine : Engine ω β) (send : String → β → ω → Except Fault α × β × ω)
    (call : String → Call) (text : String) (s : Session ω β) : Session ω β × Except Fault α :=
  match s.ensureOpen engine with
  | (s, .ok handle) => s.sendOver send call text handle
  | (s, .error fault) => (s.settle fault, .error fault)

/-- The event of a text that is about to be sent. -/
def sending (verb text : String) : Event := ⟨.trace, verb, [("sql", text)]⟩

/-- Carry out a command and count the affected rows. -/
def execute (engine : Engine ω β) (c : Command) (s : Session ω β) :
    Session ω β × Except Fault Nat :=
  match c.render with
  | .error fault => (s, .error fault)
  | .ok text => (s.note (sending "execute" text)).send engine engine.execute .execute text

/-- Carry out a command and give its rows. -/
def query (engine : Engine ω β) (c : Command) (s : Session ω β) :
    Session ω β × Except Fault (List Row) :=
  match c.render with
  | .error fault => (s, .error fault)
  | .ok text => (s.note (sending "query" text)).send engine engine.query .query text

/-- Close the session.  The next command opens it again. -/
def close (engine : Engine ω β) (s : Session ω β) : Session ω β × Except Fault Unit :=
  let (answer, s) :=
    match s.handle with
    | none => (Except.ok (), s)
    | some handle =>
      let (answer, world) := engine.close handle s.world
      (answer, { s with world, handle := none }.called .close)
  ({ s with phase := .closed }.note ⟨.info, "connection closed", [s.urlDetail]⟩, answer)

end Session

end DocStore
