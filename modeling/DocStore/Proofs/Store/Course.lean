import DocStore.Proofs.Engine.Record
import DocStore.Store.Program

/-!
# The course of a program

How a program goes on after a call that fails.  `Program.Reaches` follows a program over a session
call by call; `Program.Handles` says of every call that a program can come to, whatever was answered
before, what becomes of a failure of that call.  A property of this kind is kept by putting programs
together (`Program.Handles.bind`, `Program.Handles.attempt_bind`).

A failure that an engine notices during a run is the last notice of a call that the run reaches, and
the run goes on from there as the program does after that failure (`Program.exists_failing`).
-/

namespace DocStore

namespace Fault

/-- The faults with which an engine answers. -/
def isFromBelow : Fault → Bool
  | .engine _ _ | .connection _ | .database _ => true
  | _ => false

end Fault

namespace Notice

/-- The failure that a notice is about. -/
def failure? : Notice → Option Fault
  | .refused fault => some fault
  | .received _ _ failure | .closed _ failure => failure
  | .opened _ | .asked _ _ => none

end Notice

/-! ### The failure of a call -/

namespace Ledger

variable {l l' : Ledger}

/-- Among notices of which only the last can be about a failure, one about a failure is the last. -/
theorem last_of_quiet {quiet before after : List Notice} {last n : Notice} {e : Fault}
    (hquiet : ∀ m ∈ quiet, m.failure? = none) (hsplit : quiet ++ [last] = before ++ n :: after)
    (hn : n.failure? = some e) : after = [] ∧ last = n := by
  rcases List.append_eq_append_iff.mp hsplit with ⟨middle, rfl, htail⟩ | ⟨middle, rfl, htail⟩
  · cases middle with
    | nil =>
      obtain ⟨hlast, hafter⟩ := List.cons.inj htail
      exact ⟨hafter.symm, hlast⟩
    | cons m rest => simp at htail
  · cases middle with
    | nil =>
      obtain ⟨hlast, hafter⟩ := List.cons.inj htail
      exact ⟨hafter, hlast.symm⟩
    | cons m rest =>
      obtain ⟨rfl, -⟩ := List.cons.inj htail
      have hnone := hquiet n (List.mem_append_right _ List.mem_cons_self)
      rw [hnone] at hn
      exact absurd hn (by simp)

/-- A failure that is noticed in a call is the last notice of the call, and the failure of its
answer. -/
theorem Serves.failing {r : Request} {failure : Option Fault} (h : l.Serves r l' failure) :
    ∃ news, l'.notices = l.notices ++ news ∧
      ∀ before n after e, news = before ++ n :: after → n.failure? = some e →
        after = [] ∧ failure = some e := by
  have hstale : ∀ m ∈ l.stale, m.failure? = none := by
    intro m hm
    obtain ⟨id, rfl⟩ := eq_asked_of_mem_stale hm
    rfl
  have hnothing : ∀ before (n : Notice) after e, [] = before ++ n :: after → n.failure? = some e →
      after = [] ∧ failure = some e := by
    intro before n after e hsplit
    simp at hsplit
  cases h with
  | unwritten c hcommand fault hrender => exact ⟨[], by simp, hnothing⟩
  | sent text htext l' failure hsends =>
    cases hsends with
    | refused fault =>
      refine ⟨_, rfl, fun before n after e hsplit hn => ?_⟩
      obtain ⟨hafter, rfl⟩ := last_of_quiet hstale hsplit hn
      exact ⟨hafter, hn⟩
    | overNew failure =>
      refine ⟨_, behind_notices _ _, fun before n after e hsplit hn => ?_⟩
      have hquiet : ∀ m ∈ l.stale ++ [.opened l.opened], m.failure? = none := by
        intro m hm
        rcases List.mem_append.mp hm with hm | hm
        · exact hstale m hm
        · rw [List.mem_singleton.mp hm]
          rfl
      obtain ⟨hafter, rfl⟩ := last_of_quiet hquiet (by simpa using hsplit) hn
      exact ⟨hafter, hn⟩
    | overOld id hid failure =>
      refine ⟨_, behind_notices _ _, fun before n after e hsplit hn => ?_⟩
      have hquiet : ∀ m ∈ [Notice.asked id true], m.failure? = none := by simp [Notice.failure?]
      obtain ⟨hafter, rfl⟩ := last_of_quiet hquiet hsplit hn
      exact ⟨hafter, hn⟩
  | closed hcommand l' failure hcloses =>
    cases hcloses with
    | nothing hcurrent => exact ⟨[], by simp, hnothing⟩
    | closed id hid failure =>
      refine ⟨_, rfl, fun before n after e hsplit hn => ?_⟩
      have hquiet : ∀ m ∈ ([] : List Notice), m.failure? = none := by simp
      obtain ⟨hafter, rfl⟩ := last_of_quiet hquiet hsplit hn
      exact ⟨hafter, hn⟩

/-- A notice about a failure falls into a call, which ends with it, or comes later. -/
theorem Serves.split {r : Request} {failure : Option Fault} (h : l.Serves r l' failure)
    {more before after : List Notice} {n : Notice} {e : Fault}
    (hall : l'.notices ++ more = l.notices ++ (before ++ n :: after))
    (hn : n.failure? = some e) :
    (l'.notices = l.notices ++ (before ++ [n]) ∧ failure = some e) ∨
      ∃ rest, l.notices ++ before = l'.notices ++ rest ∧ more = rest ++ n :: after := by
  obtain ⟨news, hnews, hlast⟩ := h.failing
  rw [hnews, List.append_assoc] at hall
  rcases List.append_eq_append_iff.mp (List.append_cancel_left hall) with
    ⟨rest, rfl, hmore⟩ | ⟨rest, rfl, hrest⟩
  · exact .inr ⟨rest, by rw [hnews, List.append_assoc], hmore⟩
  · cases rest with
    | nil => exact .inr ⟨[], by simp [hnews], by simpa using hrest.symm⟩
    | cons m rest =>
      obtain ⟨rfl, -⟩ := List.cons.inj hrest
      obtain ⟨rfl, hfailure⟩ := hlast before n rest e rfl hn
      exact .inl ⟨hnews, hfailure⟩

end Ledger

theorem eq_error_of_failure? {α : Type} {answer : Except Fault α} {e : Fault}
    (h : failure? answer = some e) : answer = .error e := by
  cases answer with
  | ok v => simp [failure?] at h
  | error fault => rw [Option.some.inj h]

namespace Program

variable {α γ ω β : Type}

/-! ### The first call -/

/-- The call with which a program begins. -/
def request? : Program α → Option Request
  | .execute c _ => some (.execute c)
  | .query c _ => some (.query c)
  | .close _ => some .close
  | .done _ | .note _ _ => none

/-- How a program goes on when its first call fails. -/
def failing (e : Fault) : Program α → Program α
  | .execute _ next => next (.error e)
  | .query _ next => next (.error e)
  | .close next => next (.error e)
  | p => p

/-- How a program goes on when its first call succeeds with nothing. -/
def idle : Program α → Program α
  | .execute _ next => next (.ok 0)
  | .query _ next => next (.ok [])
  | .close next => next (.ok ())
  | p => p

/-- A program with something behind it begins with the call of the program, and goes on after this
call as the program does, with the same behind it. -/
structure BeginsAs (k : Program α → Program γ) (q : Program α) : Prop where
  request : (k q).request? = q.request?
  failing (e : Fault) : (k q).failing e = k (q.failing e)
  idle : (k q).idle = k q.idle

/-- What stands behind a program leaves its first call alone. -/
theorem Continues.beginsAs {k : Program α → Program γ} (hk : Continues k) {q : Program α}
    (hq : q.request?.isSome) : BeginsAs k q := by
  cases q with
  | done result => simp [request?] at hq
  | note event next => simp [request?] at hq
  | execute c next => constructor <;> simp [hk.execute, request?, failing, idle]
  | query c next => constructor <;> simp [hk.query, request?, failing, idle]
  | close next => constructor <;> simp [hk.close, request?, failing, idle]

/-! ### Runs -/

/-- A run of the first program over the first session comes to the second program over the second
session. -/
inductive Reaches (engine : Engine ω β) :
    Program α → Session ω β → Program α → Session ω β → Prop where
  | here (p : Program α) (s : Session ω β) : Reaches engine p s p s
  | note {e : Event} {next q : Program α} {s t : Session ω β}
      (h : Reaches engine next (s.note e) q t) : Reaches engine (.note e next) s q t
  | execute {c : Command} {next : Except Fault Nat → Program α} {q : Program α}
      {s t : Session ω β}
      (h : Reaches engine (next (s.execute engine c).2) (s.execute engine c).1 q t) :
      Reaches engine (.execute c next) s q t
  | query {c : Command} {next : Except Fault (List Row) → Program α} {q : Program α}
      {s t : Session ω β}
      (h : Reaches engine (next (s.query engine c).2) (s.query engine c).1 q t) :
      Reaches engine (.query c next) s q t
  | close {next : Except Fault Unit → Program α} {q : Program α} {s t : Session ω β}
      (h : Reaches engine (next (s.close engine).2) (s.close engine).1 q t) :
      Reaches engine (.close next) s q t

section Notices

variable (engine : Engine ω β)

/-- A run adds to the record. -/
theorem exists_run_notices (p : Program α) (s : Session (Recorded ω) (Nat × β)) :
    ∃ more, (p.run engine.recorded s).1.ledger.notices = s.ledger.notices ++ more := by
  have hgrow : ∀ {s s' : Session (Recorded ω) (Nat × β)} {r : Request} {failure : Option Fault}
      {final : List Notice}, Ledger.Serves s.ledger r s'.ledger failure →
      (∃ more, final = s'.ledger.notices ++ more) → ∃ more, final = s.ledger.notices ++ more := by
    intro s s' r failure final hserves hmore
    obtain ⟨news, hnews, -⟩ := hserves.failing
    obtain ⟨more, hmore⟩ := hmore
    exact ⟨news ++ more, by rw [hmore, hnews, List.append_assoc]⟩
  induction p generalizing s with
  | done result => exact ⟨[], by simp [run]⟩
  | note e next ih => exact ih (s.note e)
  | execute c next ih => exact hgrow (Session.serves_execute c s) (ih _ _)
  | query c next ih => exact hgrow (Session.serves_query c s) (ih _ _)
  | close next ih => exact hgrow (Session.serves_close s) (ih _ _)

/-- The record does not change a run. -/
theorem run_plain (p : Program α) (s : Session (Recorded ω) (Nat × β)) :
    p.run engine s.plain =
      ((p.run engine.recorded s).1.plain, (p.run engine.recorded s).2) := by
  induction p generalizing s with
  | done result => rfl
  | note e next ih => exact ih (s.note e)
  | execute c next ih => simp only [run, Session.execute_plain, ih]
  | query c next ih => simp only [run, Session.query_plain, ih]
  | close next ih => simp only [run, Session.close_plain, ih]

/-- **A failure that is noticed during a run is the last notice of a call that the run reaches**,
and the run goes on as the program does after that failure. -/
theorem exists_failing (p : Program α) {s : Session (Recorded ω) (Nat × β)}
    {before after : List Notice} {n : Notice} {e : Fault}
    (hrun : (p.run engine.recorded s).1.ledger.notices = s.ledger.notices ++ (before ++ n :: after))
    (hn : n.failure? = some e) :
    ∃ q t r, Reaches engine.recorded p s q t ∧ q.request? = some r ∧
      (t.serve engine.recorded r).ledger.notices = s.ledger.notices ++ (before ++ [n]) ∧
      p.run engine.recorded s = (q.failing e).run engine.recorded (t.serve engine.recorded r) := by
  induction p generalizing s before with
  | done result => simp [run] at hrun
  | note event next ih =>
    obtain ⟨q, t, r, hreach, hq⟩ := ih hrun
    exact ⟨q, t, r, .note hreach, hq⟩
  | execute c next ih =>
    obtain ⟨more, hmore⟩ := exists_run_notices engine (next (s.execute engine.recorded c).2)
      (s.execute engine.recorded c).1
    rcases (Session.serves_execute c s).split (hmore.symm.trans hrun) hn with
      ⟨hnotices, hfailure⟩ | ⟨rest, hrest, hlater⟩
    · refine ⟨_, s, .execute c, .here _ s, rfl, hnotices, ?_⟩
      rw [failing, ← eq_error_of_failure? hfailure]
      rfl
    · obtain ⟨q, t, r, hreach, hrequest, hnotices, hq⟩ := ih _ (hmore.trans (by rw [hlater]))
      refine ⟨q, t, r, .execute hreach, hrequest, ?_, hq⟩
      rw [hnotices, ← List.append_assoc, ← hrest, List.append_assoc]
  | query c next ih =>
    obtain ⟨more, hmore⟩ := exists_run_notices engine (next (s.query engine.recorded c).2)
      (s.query engine.recorded c).1
    rcases (Session.serves_query c s).split (hmore.symm.trans hrun) hn with
      ⟨hnotices, hfailure⟩ | ⟨rest, hrest, hlater⟩
    · refine ⟨_, s, .query c, .here _ s, rfl, hnotices, ?_⟩
      rw [failing, ← eq_error_of_failure? hfailure]
      rfl
    · obtain ⟨q, t, r, hreach, hrequest, hnotices, hq⟩ := ih _ (hmore.trans (by rw [hlater]))
      refine ⟨q, t, r, .query hreach, hrequest, ?_, hq⟩
      rw [hnotices, ← List.append_assoc, ← hrest, List.append_assoc]
  | close next ih =>
    obtain ⟨more, hmore⟩ := exists_run_notices engine (next (s.close engine.recorded).2)
      (s.close engine.recorded).1
    rcases (Session.serves_close s).split (hmore.symm.trans hrun) hn with
      ⟨hnotices, hfailure⟩ | ⟨rest, hrest, hlater⟩
    · refine ⟨_, s, .close, .here _ s, rfl, hnotices, ?_⟩
      rw [failing, ← eq_error_of_failure? hfailure]
      rfl
    · obtain ⟨q, t, r, hreach, hrequest, hnotices, hq⟩ := ih _ (hmore.trans (by rw [hlater]))
      refine ⟨q, t, r, .close hreach, hrequest, ?_, hq⟩
      rw [hnotices, ← List.append_assoc, ← hrest, List.append_assoc]

end Notices

/-! ### What becomes of failures -/

/-- Whatever was answered before, every failure of a call is treated as the predicate says of the
program that begins with that call. -/
def Handles (R : Program α → Fault → Prop) : Program α → Prop
  | .done _ => True
  | .note _ next => next.Handles R
  | .execute c next =>
    (∀ e, e.isFromBelow → R (.execute c next) e) ∧ ∀ answer, (next answer).Handles R
  | .query c next =>
    (∀ e, e.isFromBelow → R (.query c next) e) ∧ ∀ answer, (next answer).Handles R
  | .close next => (∀ e, e.isFromBelow → R (.close next) e) ∧ ∀ answer, (next answer).Handles R

namespace Handles

variable {R : Program α → Fault → Prop}

theorem of_reaches {engine : Engine ω β} {p q : Program α} {s t : Session ω β}
    (h : Reaches engine p s q t) (hp : p.Handles R) : q.Handles R := by
  induction h with
  | here p s => exact hp
  | note h ih => exact ih hp
  | execute h ih => exact ih (hp.2 _)
  | query h ih => exact ih (hp.2 _)
  | close h ih => exact ih (hp.2 _)

/-- What is said of the first call of a program. -/
theorem first {q : Program α} {r : Request} {e : Fault} (h : q.Handles R)
    (hrequest : q.request? = some r) (he : e.isFromBelow) : R q e := by
  cases q with
  | done result => simp [request?] at hrequest
  | note event next => simp [request?] at hrequest
  | execute c next => exact h.1 e he
  | query c next => exact h.1 e he
  | close next => exact h.1 e he

/-- Behind a result that needs no call. -/
theorem lift {result : Except Fault γ} {f : γ → Program α}
    (h : ∀ v, result = .ok v → (f v).Handles R) : (Program.done result >>= f).Handles R := by
  cases result with
  | ok v => exact h v rfl
  | error fault => trivial

/-- The calls of a program with something behind it are those of the program, which go on with it
behind them, and those behind its end. -/
theorem of_continues {R' : Program γ → Fault → Prop} {k : Program α → Program γ}
    (hk : Continues k) {p : Program α} (hp : p.Handles R)
    (hR : ∀ q e, BeginsAs k q → e.isFromBelow → R q e → R' (k q) e)
    (hend : ∀ result, (k (.done result)).Handles R') : (k p).Handles R' := by
  induction p with
  | done result => exact hend result
  | note event next ih =>
    rw [hk.note]
    exact ih hp
  | execute c next ih =>
    have hfirst := fun e he => hR _ e (hk.beginsAs rfl) he (hp.1 e he)
    rw [hk.execute] at hfirst ⊢
    exact ⟨hfirst, fun answer => ih answer (hp.2 answer)⟩
  | query c next ih =>
    have hfirst := fun e he => hR _ e (hk.beginsAs rfl) he (hp.1 e he)
    rw [hk.query] at hfirst ⊢
    exact ⟨hfirst, fun answer => ih answer (hp.2 answer)⟩
  | close next ih =>
    have hfirst := fun e he => hR _ e (hk.beginsAs rfl) he (hp.1 e he)
    rw [hk.close] at hfirst ⊢
    exact ⟨hfirst, fun answer => ih answer (hp.2 answer)⟩

theorem bind {R' : Program γ → Fault → Prop} {p : Program α} {f : α → Program γ}
    (hp : p.Handles R)
    (hR : ∀ q e, BeginsAs (· >>= f) q → e.isFromBelow → R q e → R' (q >>= f) e)
    (hf : ∀ v, (f v).Handles R') : (p >>= f).Handles R' :=
  of_continues (.bind f) hp hR fun _ => lift fun v _ => hf v

theorem attempt_bind {R' : Program γ → Fault → Prop} {p : Program α}
    {f : Except Fault α → Program γ} (hp : p.Handles R)
    (hR : ∀ q e, BeginsAs (fun p => p.attempt >>= f) q → e.isFromBelow → R q e →
      R' (q.attempt >>= f) e)
    (hf : ∀ result, (f result).Handles R') : (p.attempt >>= f).Handles R' :=
  of_continues (.attempt_bind f) hp hR hf

theorem mono {R' : Program α → Fault → Prop} {p : Program α} (hp : p.Handles R)
    (hR : ∀ q e, e.isFromBelow → R q e → R' q e) : p.Handles R' :=
  of_continues .id hp (fun q e _ => hR q e) fun _ => trivial

end Handles

/-! ### Failures as attempts -/

theorem verdict_other (className : String) (e : Fault) :
    Attempt.other.verdict className e = some e := by
  unfold Attempt.verdict
  cases e.engineNumber with
  | none => rfl
  | some number => rfl

/-- What is left of a failed attempt. -/
theorem settle_error_bind (a : Attempt) (className : String) (e : Fault) (f : Option α → Program γ) :
    (settle a className (.error e) >>= f) =
      match a.verdict className e with
      | some reported => .done (.error reported)
      | none => .note (a.notice className e) (f none) := by
  cases hverdict : a.verdict className e with
  | some reported =>
    simp only [settle, hverdict]
    rfl
  | none =>
    simp only [settle, hverdict]
    rfl

theorem Handles.settle {R : Program γ → Fault → Prop} (a : Attempt) (className : String)
    {f : Option α → Program γ} (result : Except Fault α) (hf : ∀ v, (f v).Handles R) :
    (settle a className result >>= f).Handles R := by
  cases result with
  | ok v => exact hf (some v)
  | error fault =>
    rw [settle_error_bind]
    cases a.verdict className fault with
    | none => exact hf none
    | some reported => trivial

/-- The first call is one of these attempts, and its failure is treated as that of the attempt: it
is reported, or, if it does no harm, the program goes on as if nothing had been found. -/
def Settles (attempt : Request → Option Attempt) (className : String) (q : Program α) (e : Fault) :
    Prop :=
  ∀ r, q.request? = some r → ∃ a, attempt r = some a ∧
    match a.verdict className e with
    | some reported => q.failing e = .done (.error reported)
    | none => ∃ event, q.failing e = .note event q.idle

variable {attempt : Request → Option Attempt} {className : String}

/-- A first call that is carried out as an attempt, in front of a program that does not tell a failure
without harm from a success with nothing. -/
theorem settles_of_settle {q : Program γ} {r : Request} {a : Attempt} {e : Fault}
    {f : Option α → Program γ} (hrequest : q.request? = some r) (ha : attempt r = some a)
    (hfailing : q.failing e =
      match a.verdict className e with
      | some reported => .done (.error reported)
      | none => .note (a.notice className e) (f none))
    (hnone : f none = q.idle) : q.Settles attempt className e := by
  intro r' hr'
  obtain rfl := Option.some.inj (hrequest.symm.trans hr')
  refine ⟨a, ha, ?_⟩
  cases hverdict : a.verdict className e with
  | some reported =>
    simp only [hverdict] at hfailing
    exact hfailing
  | none =>
    simp only [hverdict, hnone] at hfailing
    exact ⟨_, hfailing⟩

theorem Settles.bind {q : Program α} {e : Fault} (h : q.Settles attempt className e)
    {f : α → Program γ} (hq : BeginsAs (· >>= f) q) : (q >>= f).Settles attempt className e := by
  intro r hr
  rw [hq.request] at hr
  obtain ⟨a, ha, hsettled⟩ := h r hr
  refine ⟨a, ha, ?_⟩
  rw [hq.failing, hq.idle]
  cases hverdict : a.verdict className e with
  | some reported =>
    simp only [hverdict] at hsettled
    rw [hsettled]
    rfl
  | none =>
    simp only [hverdict] at hsettled
    obtain ⟨event, hsettled⟩ := hsettled
    refine ⟨event, ?_⟩
    rw [hsettled]
    rfl

/-- Whatever was answered before, every call is one of these attempts, and its failure is treated
as that. -/
def HandlesAs (attempt : Request → Option Attempt) (className : String) (p : Program α) : Prop :=
  p.Handles (Settles attempt className)

namespace HandlesAs

theorem bind {p : Program α} (hp : p.HandlesAs attempt className) {f : α → Program γ}
    (hf : ∀ v, (f v).HandlesAs attempt className) : (p >>= f).HandlesAs attempt className :=
  Handles.bind hp (fun _ _ hq _ h => h.bind hq) hf

theorem done (result : Except Fault α) :
    (Program.done result).HandlesAs attempt className := trivial

/-- Behind a result that needs no call. -/
theorem lift {result : Except Fault γ} {f : γ → Program α}
    (hf : ∀ v, result = .ok v → (f v).HandlesAs attempt className) :
    (Program.done result >>= f).HandlesAs attempt className := Handles.lift hf

/-- The answer to closing is the result of the program. -/
theorem close (h : attempt .close = some .other) :
    (Program.close .done).HandlesAs attempt className := by
  refine ⟨fun e _ r hr => ?_, fun _ => trivial⟩
  obtain rfl := Option.some.inj hr
  refine ⟨_, h, ?_⟩
  rw [verdict_other]
  rfl

theorem report (e : Event) : (Program.report e).HandlesAs attempt className := trivial

/-- A call whose answer is the result of the program is no special attempt. -/
theorem perform {c : Command} (h : attempt (.execute c) = some .other) :
    (Program.perform c).HandlesAs attempt className := by
  refine ⟨fun e _ r hr => ?_, fun _ => trivial⟩
  obtain rfl := Option.some.inj hr
  refine ⟨_, h, ?_⟩
  rw [verdict_other]
  rfl

theorem rows {c : Command} (h : attempt (.query c) = some .other) :
    (Program.rows c).HandlesAs attempt className := by
  refine ⟨fun e _ r hr => ?_, fun _ => trivial⟩
  obtain rfl := Option.some.inj hr
  refine ⟨_, h, ?_⟩
  rw [verdict_other]
  rfl

/-- An attempt at a command, if the program behind it does not tell a failure without harm from a
success with nothing. -/
theorem executeAs {c : Command} {a : Attempt} (ha : attempt (.execute c) = some a)
    {f : Option Nat → Program γ} (hf : ∀ v, (f v).HandlesAs attempt className)
    (hnone : f none = f (some 0)) :
    (Program.executeAs a className c >>= f).HandlesAs attempt className :=
  ⟨fun e _ => settles_of_settle rfl ha (settle_error_bind a className e f) hnone,
    fun answer => .settle a className answer hf⟩

theorem queryAs {c : Command} {a : Attempt} (ha : attempt (.query c) = some a)
    {f : Option (List Row) → Program γ} (hf : ∀ v, (f v).HandlesAs attempt className)
    (hnone : f none = f (some [])) :
    (Program.queryAs a className c >>= f).HandlesAs attempt className :=
  ⟨fun e _ => settles_of_settle rfl ha (settle_error_bind a className e f) hnone,
    fun answer => .settle a className answer hf⟩

end HandlesAs

end Program

end DocStore
