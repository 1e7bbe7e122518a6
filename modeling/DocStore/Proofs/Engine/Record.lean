import DocStore.Engine.Session
import Mathlib.Data.List.Basic

/-!
# What an engine sees of a session

`Engine.recorded` is an engine with a memory.  It answers as the engine itself does, numbers its
connections in the order in which they are opened, and keeps a record of what it notices: attempts
to connect, questions whether a connection can be used, texts received and connections closed.  A
session over it is the session over the engine itself with that record beside it
(`Session.plain_serveAll`).

Of a session only its `Ledger` matters here: its phase, the number of its connection, and the
record.  `Ledger.Sends` lists all that sending a text can come to, and `Ledger.Closes` all that
closing can come to; every call of a session is one of these, or nothing because its command cannot
be written (`Session.serves_serve`).
-/

namespace DocStore

/-- What an engine notices.  Connections are numbered in the order in which they are opened. -/
inductive Notice where
  | opened (id : Nat)
  /-- An attempt to connect fails. -/
  | refused (fault : Fault)
  /-- A connection is asked whether it can be used. -/
  | asked (id : Nat) (usable : Bool)
  /-- A text arrives over a connection. -/
  | received (id : Nat) (text : String) (failure : Option Fault)
  | closed (id : Nat) (failure : Option Fault)
  deriving DecidableEq, Repr

/-- The world of an engine with a memory. -/
structure Recorded (ω : Type) where
  world : ω
  /-- How many connections there have been. -/
  opened : Nat
  notices : List Notice

namespace Recorded

variable {ω : Type}

/-- Remember a notice, in the world as it is then. -/
def noting (t : Recorded ω) (world : ω) (n : Notice) : Recorded ω :=
  { t with world, notices := t.notices ++ [n] }

end Recorded

/-- Why an answer is none. -/
def failure? {α : Type} : Except Fault α → Option Fault
  | .ok _ => none
  | .error fault => some fault

namespace Engine

variable {ω β α : Type}

/-- Receive a text and remember it. -/
def receive (send : String → β → ω → Except Fault α × β × ω) (text : String) (handle : Nat × β)
    (t : Recorded ω) : Except Fault α × (Nat × β) × Recorded ω :=
  let (answer, next, world) := send text handle.2 t.world
  (answer, (handle.1, next), t.noting world (.received handle.1 text (failure? answer)))

/-- The engine with a memory. -/
def recorded (engine : Engine ω β) : Engine (Recorded ω) (Nat × β) where
  connect url t :=
    match engine.connect url t.world with
    | (.ok handle, world) =>
      (.ok (t.opened, handle), { t.noting world (.opened t.opened) with opened := t.opened + 1 })
    | (.error fault, world) => (.error fault, t.noting world (.refused fault))
  execute := receive engine.execute
  query := receive engine.query
  isConnected handle t :=
    let (usable, world) := engine.isConnected handle.2 t.world
    (usable, t.noting world (.asked handle.1 usable))
  close handle t :=
    let (answer, world) := engine.close handle.2 t.world
    (answer, t.noting world (.closed handle.1 (failure? answer)))

end Engine

/-! ### Ledgers -/

/-- What matters of a session: its phase, the number of its connection, and the engine's record. -/
structure Ledger where
  phase : Phase
  current : Option Nat
  opened : Nat
  notices : List Notice

namespace Ledger

/-- The question that finds the present connection, if there is one, out of use. -/
def stale (l : Ledger) : List Notice := (l.current.map fun id => Notice.asked id false).toList

/-- The ledger behind an answer: a lost transport ends the connection. -/
def behind (failure : Option Fault) (l : Ledger) : Ledger :=
  if failure.any Fault.isConnectionLoss then { l with phase := .failed, current := none } else l

theorem eq_asked_of_mem_stale {l : Ledger} {n : Notice} (h : n ∈ l.stale) :
    ∃ id, n = .asked id false := by
  obtain ⟨id, -, rfl⟩ : ∃ id, l.current = some id ∧ .asked id false = n := by
    simpa [stale] using h
  exact ⟨id, rfl⟩

theorem behind_notices (failure : Option Fault) (l : Ledger) :
    (behind failure l).notices = l.notices := by
  unfold behind
  split <;> rfl

/-- All that sending a text can come to, with the failure of its answer. -/
inductive Sends (text : String) (l : Ledger) : Ledger → Option Fault → Prop where
  /-- No connection can be opened. -/
  | refused (fault : Fault) :
    Sends text l ⟨.failed, none, l.opened, l.notices ++ (l.stale ++ [.refused fault])⟩ (some fault)
  /-- The text goes over a new connection. -/
  | overNew (failure : Option Fault) :
    Sends text l
      (behind failure ⟨.connected, some l.opened, l.opened + 1,
        l.notices ++ (l.stale ++ [.opened l.opened, .received l.opened text failure])⟩)
      failure
  /-- The text goes over the present connection. -/
  | overOld (id : Nat) (h : l.current = some id) (failure : Option Fault) :
    Sends text l
      (behind failure
        { l with notices := l.notices ++ [.asked id true, .received id text failure] })
      failure

/-- All that closing can come to, with the failure of its answer. -/
inductive Closes (l : Ledger) : Ledger → Option Fault → Prop where
  | nothing (h : l.current = none) : Closes l { l with phase := .closed } none
  | closed (id : Nat) (h : l.current = some id) (failure : Option Fault) :
    Closes l ⟨.closed, none, l.opened, l.notices ++ [.closed id failure]⟩ failure

end Ledger

/-- A call on a session. -/
inductive Request where
  | execute (c : Command)
  | query (c : Command)
  | close

namespace Request

/-- The command of a request, if it has one. -/
def command? : Request → Option Command
  | .execute c | .query c => some c
  | .close => none

/-- The text that a request sends, if there is one. -/
def text? (r : Request) : Option String := r.command?.bind fun c => c.render.toOption

end Request

/-- All that a request can come to, with the failure of its answer. -/
inductive Ledger.Serves (l : Ledger) (r : Request) : Ledger → Option Fault → Prop where
  /-- The command cannot be written. -/
  | unwritten (c : Command) (hcommand : r.command? = some c) (fault : Fault)
      (hrender : c.render = .error fault) : Serves l r l (some fault)
  | sent (text : String) (htext : r.text? = some text) (l' : Ledger) (failure : Option Fault)
      (hsends : Ledger.Sends text l l' failure) : Serves l r l' failure
  | closed (hcommand : r.command? = none) (l' : Ledger) (failure : Option Fault)
      (hcloses : Ledger.Closes l l' failure) : Serves l r l' failure

namespace Session

variable {ω β α : Type}

/-- Make a call. -/
def serve (engine : Engine ω β) (s : Session ω β) : Request → Session ω β
  | .execute c => (s.execute engine c).1
  | .query c => (s.query engine c).1
  | .close => (s.close engine).1

/-- Make calls one after the other. -/
def serveAll (engine : Engine ω β) (s : Session ω β) (requests : List Request) : Session ω β :=
  requests.foldl (serve engine) s

/-- A session that has not been opened, or one over an open connection. -/
def fresh (url : String) (world : ω) : Option β → Session ω β
  | none => start url world
  | some handle => opened url handle world

/-! ### Opening -/

section Opening

variable {engine : Engine ω β} {s : Session ω β} {handle : β} {world : ω}

theorem ensureOpen_none (engine : Engine ω β) (h : s.handle = none) :
    s.ensureOpen engine = s.connect engine := by
  simp only [ensureOpen, h]

theorem ensureOpen_usable (h : s.handle = some handle)
    (hasked : engine.isConnected handle s.world = (true, world)) :
    s.ensureOpen engine = ({ s with world }, .ok handle) := by
  simp only [ensureOpen, h, hasked, if_true]

theorem ensureOpen_stale (h : s.handle = some handle)
    (hasked : engine.isConnected handle s.world = (false, world)) :
    s.ensureOpen engine = { s with world }.connect engine := by
  simp only [ensureOpen, h, hasked, Bool.false_eq_true, if_false]

end Opening

/-! ### The session beside the record -/

/-- The session over the engine itself. -/
def plain (s : Session (Recorded ω) (Nat × β)) : Session ω β :=
  { s with world := s.world.world, handle := s.handle.map (·.2) }

/-- What matters of a session. -/
def ledger (s : Session (Recorded ω) (Nat × β)) : Ledger :=
  ⟨s.phase, s.handle.map (·.1), s.world.opened, s.world.notices⟩

/-- A session with a record, not opened yet, or over an open connection, which has number 0. -/
def freshRecorded (url : String) (world : ω) : Option β → Session (Recorded ω) (Nat × β)
  | none => fresh url ⟨world, 0, []⟩ none
  | some handle => fresh url ⟨world, 1, []⟩ (some (0, handle))

theorem freshRecorded_plain (url : String) (world : ω) (handle? : Option β) :
    (freshRecorded url world handle?).plain = fresh url world handle? := by
  cases handle? <;> rfl

variable (engine : Engine ω β) (s : Session (Recorded ω) (Nat × β))

theorem connect_plain :
    s.plain.connect engine =
      ((s.connect engine.recorded).1.plain, (s.connect engine.recorded).2.map (·.2)) := by
  unfold connect Engine.recorded plain
  cases h : engine.connect s.url s.world.world with
  | mk answer world =>
    cases answer with
    | ok handle => simp [h, called, note, urlDetail, Recorded.noting, Except.map]
    | error fault => simp [h, called, note, urlDetail, Recorded.noting, Except.map]

theorem ensureOpen_plain :
    s.plain.ensureOpen engine =
      ((s.ensureOpen engine.recorded).1.plain, (s.ensureOpen engine.recorded).2.map (·.2)) := by
  cases hhandle : s.handle with
  | none =>
    have hplain : s.plain.handle = none := by simp [plain, hhandle]
    rw [ensureOpen_none engine.recorded hhandle, ensureOpen_none engine hplain]
    exact connect_plain engine s
  | some handle =>
    have hplain : s.plain.handle = some handle.2 := by simp [plain, hhandle]
    rcases hasked : engine.isConnected handle.2 s.world.world with ⟨_ | _, world⟩
    · have hrecorded : engine.recorded.isConnected handle s.world =
          (false, s.world.noting world (.asked handle.1 false)) := by
        simp only [Engine.recorded, hasked]
      rw [ensureOpen_stale hhandle hrecorded, ensureOpen_stale hplain hasked]
      exact connect_plain engine { s with world := s.world.noting world (.asked handle.1 false) }
    · have hrecorded : engine.recorded.isConnected handle s.world =
          (true, s.world.noting world (.asked handle.1 true)) := by
        simp only [Engine.recorded, hasked]
      rw [ensureOpen_usable hhandle hrecorded, ensureOpen_usable hplain hasked]
      rfl

theorem settle_plain (fault : Fault) : s.plain.settle fault = (s.settle fault).plain := by
  unfold settle
  split
  · rfl
  · rfl

theorem sendOver_plain (f : String → β → ω → Except Fault α × β × ω) (call : String → Call)
    (text : String) (handle : Nat × β) :
    s.plain.sendOver f call text handle.2 =
      ((s.sendOver (Engine.receive f) call text handle).1.plain,
        (s.sendOver (Engine.receive f) call text handle).2) := by
  rcases hanswer : f text handle.2 s.world.world with ⟨fault | v, next, world⟩
  · have hplain : f text handle.2 s.plain.world = (.error fault, next, world) := hanswer
    simp only [sendOver, Engine.receive, hplain, hanswer, ← settle_plain]
    rfl
  · have hplain : f text handle.2 s.plain.world = (.ok v, next, world) := hanswer
    simp only [sendOver, Engine.receive, hplain, hanswer]
    rfl

theorem send_plain (f : String → β → ω → Except Fault α × β × ω) (call : String → Call)
    (text : String) :
    s.plain.send engine f call text =
      ((s.send engine.recorded (Engine.receive f) call text).1.plain,
        (s.send engine.recorded (Engine.receive f) call text).2) := by
  unfold send
  rw [ensureOpen_plain]
  rcases s.ensureOpen engine.recorded with ⟨s', fault | handle⟩
  · exact congrArg (·, Except.error fault) (settle_plain s' fault)
  · exact sendOver_plain s' f call text handle

theorem execute_plain (c : Command) :
    s.plain.execute engine c =
      ((s.execute engine.recorded c).1.plain, (s.execute engine.recorded c).2) := by
  unfold execute
  cases c.render with
  | error fault => rfl
  | ok text => exact send_plain engine (s.note _) engine.execute .execute text

theorem query_plain (c : Command) :
    s.plain.query engine c =
      ((s.query engine.recorded c).1.plain, (s.query engine.recorded c).2) := by
  unfold query
  cases c.render with
  | error fault => rfl
  | ok text => exact send_plain engine (s.note _) engine.query .query text

theorem close_plain :
    s.plain.close engine =
      ((s.close engine.recorded).1.plain, (s.close engine.recorded).2) := by
  have hworld : s.plain.world = s.world.world := rfl
  cases hhandle : s.handle with
  | none =>
    have hplain : s.plain.handle = none := by simp [plain, hhandle]
    rw [close, close, hhandle, hplain]
    rfl
  | some handle =>
    have hplain : s.plain.handle = some handle.2 := by simp [plain, hhandle]
    rw [close, close, hhandle, hplain, hworld]
    rfl

/-- **The record does not change what a session does.** -/
theorem plain_serveAll (requests : List Request) :
    (s.serveAll engine.recorded requests).plain = s.plain.serveAll engine requests := by
  unfold serveAll
  induction requests generalizing s with
  | nil => rfl
  | cons r rest ih =>
    have hserve : (s.serve engine.recorded r).plain = s.plain.serve engine r := by
      cases r with
      | execute c => exact (congrArg Prod.fst (execute_plain engine s c)).symm
      | query c => exact (congrArg Prod.fst (query_plain engine s c)).symm
      | close => exact (congrArg Prod.fst (close_plain engine s)).symm
    rw [List.foldl_cons, List.foldl_cons, ih, hserve]

/-! ### The ledger behind a call -/

variable {engine} {s : Session (Recorded ω) (Nat × β)}

theorem ledger_settle (fault : Fault) :
    (s.settle fault).ledger = Ledger.behind (some fault) s.ledger := by
  unfold settle Ledger.behind
  by_cases h : fault.isConnectionLoss = true
  · simp only [h, if_true, Option.any_some]
    rfl
  · simp only [h, if_false, Option.any_some, Bool.false_eq_true]

/-- An attempt to connect fails, or it opens the connection with the next number. -/
theorem connect_recorded (engine : Engine ω β) (s : Session (Recorded ω) (Nat × β)) :
    (∃ fault, (s.connect engine.recorded).1.ledger =
        ⟨.failed, none, s.world.opened, s.world.notices ++ [.refused fault]⟩ ∧
      (s.connect engine.recorded).2 = .error fault) ∨
    (∃ handle, (s.connect engine.recorded).1.ledger =
        ⟨.connected, some s.world.opened, s.world.opened + 1,
          s.world.notices ++ [.opened s.world.opened]⟩ ∧
      (s.connect engine.recorded).2 = .ok (s.world.opened, handle)) := by
  unfold connect Engine.recorded
  rcases h : engine.connect s.url s.world.world with ⟨fault | handle, world⟩
  · exact .inl ⟨fault, by simp [h, called, note, ledger, Recorded.noting], by simp [h]⟩
  · exact .inr ⟨handle, by simp [h, called, note, ledger, Recorded.noting], by simp [h]⟩

/-- The connection in use is none, or it is new, or it is the present one, which says that it can
be used. -/
theorem ensureOpen_recorded (engine : Engine ω β) (s : Session (Recorded ω) (Nat × β)) :
    (∃ fault, (s.ensureOpen engine.recorded).1.ledger =
        ⟨.failed, none, s.ledger.opened,
          s.ledger.notices ++ (s.ledger.stale ++ [.refused fault])⟩ ∧
      (s.ensureOpen engine.recorded).2 = .error fault) ∨
    (∃ handle, (s.ensureOpen engine.recorded).1.ledger =
        ⟨.connected, some s.ledger.opened, s.ledger.opened + 1,
          s.ledger.notices ++ (s.ledger.stale ++ [.opened s.ledger.opened])⟩ ∧
      (s.ensureOpen engine.recorded).2 = .ok (s.ledger.opened, handle)) ∨
    (∃ id handle, s.ledger.current = some id ∧
      (s.ensureOpen engine.recorded).1.ledger =
        { s.ledger with notices := s.ledger.notices ++ [.asked id true] } ∧
      (s.ensureOpen engine.recorded).2 = .ok (id, handle)) := by
  cases hhandle : s.handle with
  | none =>
    have hstale : s.ledger.stale = [] := by simp [Ledger.stale, ledger, hhandle]
    rw [ensureOpen_none engine.recorded hhandle, hstale]
    rcases connect_recorded engine s with h | h
    · exact .inl h
    · exact .inr (.inl h)
  | some handle =>
    have hcurrent : s.ledger.current = some handle.1 := by simp [ledger, hhandle]
    rcases hasked : engine.isConnected handle.2 s.world.world with ⟨_ | _, world⟩
    · have hrecorded : engine.recorded.isConnected handle s.world =
          (false, s.world.noting world (.asked handle.1 false)) := by
        simp only [Engine.recorded, hasked]
      have hstale : s.ledger.stale = [.asked handle.1 false] := by
        simp [Ledger.stale, hcurrent]
      rw [ensureOpen_stale hhandle hrecorded, hstale]
      rcases connect_recorded engine
        { s with world := s.world.noting world (.asked handle.1 false) } with h | h
      · refine .inl ?_
        simpa [Recorded.noting, ledger] using h
      · refine .inr (.inl ?_)
        simpa [Recorded.noting, ledger] using h
    · have hrecorded : engine.recorded.isConnected handle s.world =
          (true, s.world.noting world (.asked handle.1 true)) := by
        simp only [Engine.recorded, hasked]
      rw [ensureOpen_usable hhandle hrecorded]
      exact .inr (.inr ⟨handle.1, handle.2, hcurrent, rfl, rfl⟩)

/-- A text that goes over a connection is received there once. -/
theorem sendOver_recorded (f : String → β → ω → Except Fault α × β × ω) (call : String → Call)
    (text : String) (handle : Nat × β) (s : Session (Recorded ω) (Nat × β)) :
    (s.sendOver (Engine.receive f) call text handle).1.ledger =
      Ledger.behind (failure? (s.sendOver (Engine.receive f) call text handle).2)
        ⟨s.phase, some handle.1, s.world.opened, s.world.notices ++
          [.received handle.1 text
            (failure? (s.sendOver (Engine.receive f) call text handle).2)]⟩ := by
  rcases h : f text handle.2 s.world.world with ⟨fault | v, next, world⟩
  · simp only [sendOver, Engine.receive, h, failure?, ledger_settle]
    rfl
  · simp only [sendOver, Engine.receive, h, failure?, Ledger.behind, Option.any_none,
      Bool.false_eq_true, if_false]
    rfl

theorem sends_send (f : String → β → ω → Except Fault α × β × ω) (call : String → Call)
    (text : String) (s : Session (Recorded ω) (Nat × β)) :
    Ledger.Sends text s.ledger
      (s.send engine.recorded (Engine.receive f) call text).1.ledger
      (failure? (s.send engine.recorded (Engine.receive f) call text).2) := by
  unfold send
  rcases hopen : s.ensureOpen engine.recorded with ⟨s', answer⟩
  have hledger := ensureOpen_recorded engine s
  rw [hopen] at hledger
  rcases hledger with ⟨fault, hs', rfl⟩ | ⟨handle, hs', rfl⟩ | ⟨id, handle, hid, hs', rfl⟩
  · simp only [ledger_settle, hs', failure?]
    have hrefused : ∀ l : Ledger, l.phase = .failed → l.current = none →
        Ledger.behind (some fault) l = l := by
      intro l hphase hcurrent
      unfold Ledger.behind
      split
      · rw [← hphase, ← hcurrent]
      · rfl
    rw [hrefused _ rfl rfl]
    exact .refused fault
  · have hphase : s'.phase = .connected := congrArg Ledger.phase hs'
    have hopened : s'.world.opened = s.ledger.opened + 1 := congrArg Ledger.opened hs'
    have hnotices : s'.world.notices = _ := congrArg Ledger.notices hs'
    simp only [sendOver_recorded, hphase, hopened, hnotices, List.append_assoc,
      List.singleton_append]
    exact .overNew _
  · have hphase : s'.phase = s.ledger.phase := congrArg Ledger.phase hs'
    have hopened : s'.world.opened = s.ledger.opened := congrArg Ledger.opened hs'
    have hnotices : s'.world.notices = _ := congrArg Ledger.notices hs'
    simp only [sendOver_recorded, hphase, hopened, hnotices, List.append_assoc,
      List.singleton_append]
    rw [← hid]
    exact .overOld id hid _

theorem closes_close (s : Session (Recorded ω) (Nat × β)) :
    Ledger.Closes s.ledger (s.close engine.recorded).1.ledger
      (failure? (s.close engine.recorded).2) := by
  unfold close
  cases h : s.handle with
  | none =>
    have hcurrent : s.ledger.current = none := by simp [ledger, h]
    exact .nothing hcurrent
  | some handle =>
    have hcurrent : s.ledger.current = some handle.1 := by simp [ledger, h]
    exact .closed handle.1 hcurrent _

theorem serves_execute (c : Command) (s : Session (Recorded ω) (Nat × β)) :
    Ledger.Serves s.ledger (.execute c) (s.execute engine.recorded c).1.ledger
      (failure? (s.execute engine.recorded c).2) := by
  unfold execute
  cases h : c.render with
  | error fault => exact .unwritten c rfl fault h
  | ok text =>
    have htext : (Request.execute c).text? = some text := by
      simp [Request.text?, Request.command?, h, Except.toOption]
    exact .sent text htext _ _ (sends_send engine.execute .execute text (s.note _))

theorem serves_query (c : Command) (s : Session (Recorded ω) (Nat × β)) :
    Ledger.Serves s.ledger (.query c) (s.query engine.recorded c).1.ledger
      (failure? (s.query engine.recorded c).2) := by
  unfold query
  cases h : c.render with
  | error fault => exact .unwritten c rfl fault h
  | ok text =>
    have htext : (Request.query c).text? = some text := by
      simp [Request.text?, Request.command?, h, Except.toOption]
    exact .sent text htext _ _ (sends_send engine.query .query text (s.note _))

theorem serves_close (s : Session (Recorded ω) (Nat × β)) :
    Ledger.Serves s.ledger .close (s.close engine.recorded).1.ledger
      (failure? (s.close engine.recorded).2) :=
  .closed rfl _ _ (closes_close s)

/-- **Every call comes to one of the outcomes that the ledger lists.** -/
theorem serves_serve (engine : Engine ω β) (r : Request) (s : Session (Recorded ω) (Nat × β)) :
    ∃ failure, Ledger.Serves s.ledger r (s.serve engine.recorded r).ledger failure := by
  cases r with
  | execute c => exact ⟨_, serves_execute c s⟩
  | query c => exact ⟨_, serves_query c s⟩
  | close => exact ⟨_, serves_close s⟩

end Session

end DocStore
