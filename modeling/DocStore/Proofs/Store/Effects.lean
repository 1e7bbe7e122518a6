import DocStore.Proofs.Engine.Record
import DocStore.Store.Program

/-!
# Effects of programs

`Program.Meets` says which condition the result of a program and what matters of the world after it
satisfy, whatever the session is.  Parts of a program are put together by `Program.Meets.bind`.
`Program.Ends` is the case of an engine that is known in full: it names the result and the state of
the world.

An engine is steady in what matters of the world if opening and asking connections never fails and
leaves this alone (`Engine.Steady`).  A command over such an engine meets the world as it is, be the
connection old or new (`Session.execute_steady`).
-/

namespace DocStore

variable {α γ δ ω β : Type} {engine : Engine ω β}

/-! ### Steady engines -/

/-- Connections can always be opened, and opening and asking them leaves the content of the world
alone. -/
structure Engine.Steady (engine : Engine ω β) (content : ω → δ) : Prop where
  connect : ∀ url w, ∃ handle w', engine.connect url w = (.ok handle, w') ∧ content w' = content w
  isConnected : ∀ handle w, content (engine.isConnected handle w).2 = content w

namespace Session

variable {content : ω → δ}

theorem connect_steady (h : engine.Steady content) (s : Session ω β) :
    ∃ handle, (s.connect engine).2 = .ok handle ∧
      content (s.connect engine).1.world = content s.world := by
  obtain ⟨handle, w, hconnect, hcontent⟩ := h.connect s.url s.world
  refine ⟨handle, ?_, ?_⟩
  · simp [connect, hconnect]
  · simpa [connect, hconnect, note, called] using hcontent

theorem ensureOpen_steady (h : engine.Steady content) (s : Session ω β) :
    ∃ handle, (s.ensureOpen engine).2 = .ok handle ∧
      content (s.ensureOpen engine).1.world = content s.world := by
  cases hhandle : s.handle with
  | none =>
    rw [ensureOpen_none engine hhandle]
    exact connect_steady h s
  | some handle =>
    have hasked := h.isConnected handle s.world
    rcases hanswer : engine.isConnected handle s.world with ⟨_ | _, w⟩
    · rw [hanswer] at hasked
      rw [ensureOpen_stale hhandle hanswer]
      obtain ⟨fresh, hfresh, hcontent⟩ := connect_steady h { s with world := w }
      exact ⟨fresh, hfresh, hcontent.trans hasked⟩
    · rw [hanswer] at hasked
      rw [ensureOpen_usable hhandle hanswer]
      exact ⟨handle, rfl, hasked⟩

/-- What is sent meets a world with the same content. -/
theorem send_steady (h : engine.Steady content) (f : String → β → ω → Except Fault α × β × ω)
    (call : String → Call) (text : String) (s : Session ω β) :
    ∃ handle w, content w = content s.world ∧
      (s.send engine f call text).2 = (f text handle w).1 ∧
      (s.send engine f call text).1.world = (f text handle w).2.2 := by
  obtain ⟨handle, hopen, hcontent⟩ := ensureOpen_steady h s
  refine ⟨handle, (s.ensureOpen engine).1.world, hcontent, ?_⟩
  rcases hs : s.ensureOpen engine with ⟨s', answer⟩
  rw [hs] at hopen
  obtain rfl : answer = .ok handle := hopen
  simp only [send, hs, sendOver]
  rcases f text handle s'.world with ⟨fault | v, next, w⟩
  · refine ⟨rfl, ?_⟩
    dsimp only [settle]
    split <;> rfl
  · exact ⟨rfl, rfl⟩

theorem execute_steady (h : engine.Steady content) {c : Command} {text : String}
    (htext : c.render = .ok text) (s : Session ω β) :
    ∃ handle w, content w = content s.world ∧
      (s.execute engine c).2 = (engine.execute text handle w).1 ∧
      (s.execute engine c).1.world = (engine.execute text handle w).2.2 := by
  unfold execute
  rw [htext]
  exact send_steady h engine.execute .execute text (s.note (sending "execute" text))

theorem query_steady (h : engine.Steady content) {c : Command} {text : String}
    (htext : c.render = .ok text) (s : Session ω β) :
    ∃ handle w, content w = content s.world ∧
      (s.query engine c).2 = (engine.query text handle w).1 ∧
      (s.query engine c).1.world = (engine.query text handle w).2.2 := by
  unfold query
  rw [htext]
  exact send_steady h engine.query .query text (s.note (sending "query" text))

end Session

/-! ### Runs -/

namespace Program

/-- What is put behind a program runs from where the program ends. -/
theorem Continues.run_eq {k : Program α → Program γ} (hk : Continues k) (engine : Engine ω β)
    (p : Program α) (s : Session ω β) :
    (k p).run engine s = (k (.done (p.run engine s).2)).run engine (p.run engine s).1 := by
  induction p generalizing s with
  | done result => rfl
  | note e next ih => exact hk.note e next ▸ ih (s.note e)
  | execute c next ih => exact hk.execute c next ▸ ih _ _
  | query c next ih => exact hk.query c next ▸ ih _ _
  | close next ih => exact hk.close next ▸ ih _ _

theorem run_bind (engine : Engine ω β) (p : Program α) (f : α → Program γ) (s : Session ω β) :
    (p >>= f).run engine s =
      match p.run engine s with
      | (s, .ok v) => (f v).run engine s
      | (s, .error fault) => (s, .error fault) := by
  rw [(Continues.bind f).run_eq]
  rcases p.run engine s with ⟨s', fault | v⟩ <;> rfl

/-- Over every session on a world with content `c`, the result of a program and the content that it
leaves satisfy `Q`. -/
def Meets (engine : Engine ω β) (content : ω → δ) (p : Program α) (c : δ)
    (Q : Except Fault α → δ → Prop) : Prop :=
  ∀ s : Session ω β, content s.world = c →
    Q (p.run engine s).2 (content (p.run engine s).1.world)

namespace Meets

variable {content : ω → δ} {p : Program α} {f : α → Program γ} {c : δ}
  {Q : Except Fault α → δ → Prop} {R : Except Fault γ → δ → Prop}

theorem done {result : Except Fault α} (h : Q result c) :
    Meets engine content (.done result) c Q := by
  rintro s rfl
  exact h

theorem mono {Q' : Except Fault α → δ → Prop} (hp : Meets engine content p c Q)
    (h : ∀ result c', Q result c' → Q' result c') : Meets engine content p c Q' :=
  fun s hs => h _ _ (hp s hs)

theorem bind (hp : Meets engine content p c Q)
    (hok : ∀ v c', Q (.ok v) c' → Meets engine content (f v) c' R)
    (herror : ∀ fault c', Q (.error fault) c' → R (.error fault) c') :
    Meets engine content (p >>= f) c R := by
  intro s hs
  have hfirst := hp s hs
  rw [run_bind]
  rcases hrun : p.run engine s with ⟨s', fault | v⟩
  · rw [hrun] at hfirst
    exact herror fault _ hfirst
  · rw [hrun] at hfirst
    exact hok v _ hfirst s' rfl

/-- Behind a report. -/
theorem report {e : Event} {f : Unit → Program γ} (hf : Meets engine content (f ()) c R) :
    Meets engine content (Program.report e >>= f) c R :=
  fun s hs => hf (s.note e) hs

/-- Behind a value that is known. -/
theorem lift {v : α} {result : Except Fault α} (hresult : result = .ok v)
    (hf : Meets engine content (f v) c R) : Meets engine content (.done result >>= f) c R := by
  subst hresult
  exact hf

theorem settle {a : Attempt} {className : String} {answer : Except Fault α}
    {Q : Except Fault (Option α) → δ → Prop} (h : Q (a.resolve className answer) c) :
    Meets engine content (Program.settle a className answer) c Q := by
  rintro s rfl
  unfold Attempt.resolve at h
  unfold Program.settle
  cases answer with
  | ok v => exact h
  | error fault =>
    cases hverdict : a.verdict className fault with
    | none => simpa [hverdict, run, Session.note] using h
    | some reported => simpa [hverdict, run] using h

theorem executeAs (hsteady : engine.Steady content) {command : Command} {text : String}
    (htext : command.render = .ok text) {a : Attempt} {className : String}
    {Q : Except Fault (Option Nat) → δ → Prop}
    (h : ∀ handle w, content w = c →
      Q (a.resolve className (engine.execute text handle w).1)
        (content (engine.execute text handle w).2.2)) :
    Meets engine content (Program.executeAs a className command) c Q := by
  rintro s rfl
  obtain ⟨handle, w, hcontent, hanswer, hworld⟩ := Session.execute_steady hsteady htext s
  have hsettle := h handle w hcontent
  rcases hs : s.execute engine command with ⟨s', answer⟩
  rw [hs] at hanswer hworld
  obtain rfl : answer = _ := hanswer
  simp only [Program.executeAs, run, hs]
  rw [← hworld] at hsettle
  exact settle hsettle s' rfl

theorem queryAs (hsteady : engine.Steady content) {command : Command} {text : String}
    (htext : command.render = .ok text) {a : Attempt} {className : String}
    {Q : Except Fault (Option (List Row)) → δ → Prop}
    (h : ∀ handle w, content w = c →
      Q (a.resolve className (engine.query text handle w).1)
        (content (engine.query text handle w).2.2)) :
    Meets engine content (Program.queryAs a className command) c Q := by
  rintro s rfl
  obtain ⟨handle, w, hcontent, hanswer, hworld⟩ := Session.query_steady hsteady htext s
  have hsettle := h handle w hcontent
  rcases hs : s.query engine command with ⟨s', answer⟩
  rw [hs] at hanswer hworld
  obtain rfl : answer = _ := hanswer
  simp only [Program.queryAs, run, hs]
  rw [← hworld] at hsettle
  exact settle hsettle s' rfl

end Meets

/-- Over every session on a world, a program ends with a result and leaves another world. -/
def Ends (engine : Engine ω β) (p : Program α) (w : ω) (result : Except Fault α) (w' : ω) : Prop :=
  ∀ s : Session ω β, s.world = w →
    (p.run engine s).2 = result ∧ (p.run engine s).1.world = w'

namespace Ends

variable {p : Program α} {f : α → Program γ} {w w' w'' : ω}

theorem of_meets {result : Except Fault α}
    (h : Meets engine id p w fun r c => r = result ∧ c = w') : Ends engine p w result w' :=
  h

theorem meets {result : Except Fault α} (h : Ends engine p w result w') :
    Meets engine id p w fun r c => r = result ∧ c = w' :=
  h

theorem done (result : Except Fault α) : Ends engine (.done result) w result w :=
  of_meets (Meets.done ⟨rfl, rfl⟩)

theorem bind_ok {v : α} {result : Except Fault γ} (hp : Ends engine p w (.ok v) w')
    (hf : Ends engine (f v) w' result w'') : Ends engine (p >>= f) w result w'' := by
  refine of_meets (hp.meets.bind ?_ ?_)
  · rintro _ _ ⟨⟨⟩, rfl⟩
    exact hf.meets
  · rintro _ _ ⟨⟨⟩, -⟩

theorem bind_error {fault : Fault} (hp : Ends engine p w (.error fault) w') :
    Ends engine (p >>= f) w (.error fault) w' := by
  refine of_meets (hp.meets.bind ?_ ?_)
  · rintro _ _ ⟨⟨⟩, -⟩
  · rintro _ _ ⟨⟨⟩, rfl⟩
    exact ⟨rfl, rfl⟩

/-- Behind a report. -/
theorem report {e : Event} {f : Unit → Program γ} {result : Except Fault γ}
    (hf : Ends engine (f ()) w result w') :
    Ends engine (Program.report e >>= f) w result w' :=
  of_meets hf.meets.report

end Ends

end Program

end DocStore
