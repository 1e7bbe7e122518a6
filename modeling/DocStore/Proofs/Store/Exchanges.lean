import DocStore.Store.Program

/-!
# Exchanges of programs

What a run of a program asks of the engine, with the answers it gets, is a list of exchanges
(`Program.exchanges`).  The answers alone decide what is asked next and how the program ends:
`Program.Leads` says so without an engine, and every run obeys it (`Program.leads_run`).

Read backwards, a program that is made of parts splits into the exchanges of its parts
(`Program.Leads.bind`), so that what must have been answered follows from how it ended.

What every command of a program has, whatever the answers (`Program.Sends`), every command of a run
has (`Program.Sends.of_mem`).
-/

namespace DocStore

/-- A call of the engine with its answer. -/
inductive Exchange where
  | execute (c : Command) (answer : Except Fault Nat)
  | query (c : Command) (answer : Except Fault (List Row))
  | close (answer : Except Fault Unit)

/-- The command of an exchange. -/
def Exchange.command? : Exchange → Option Command
  | .execute c _ | .query c _ => some c
  | .close _ => none

namespace Program

variable {α γ ω β : Type}

/-- The exchanges of a run in order. -/
def exchanges (engine : Engine ω β) : Program α → Session ω β → List Exchange
  | .done _, _ => []
  | .note e next, s => next.exchanges engine (s.note e)
  | .execute c next, s =>
    let (s, answer) := s.execute engine c
    .execute c answer :: (next answer).exchanges engine s
  | .query c next, s =>
    let (s, answer) := s.query engine c
    .query c answer :: (next answer).exchanges engine s
  | .close next, s =>
    let (s, answer) := s.close engine
    .close answer :: (next answer).exchanges engine s

/-- Exchanges with which a program ends as it does. -/
inductive Leads : Program α → List Exchange → Except Fault α → Prop where
  | done (result : Except Fault α) : Leads (.done result) [] result
  | note {e : Event} {next : Program α} {xs : List Exchange} {result : Except Fault α}
      (h : Leads next xs result) : Leads (.note e next) xs result
  | execute {c : Command} {next : Except Fault Nat → Program α} {answer : Except Fault Nat}
      {xs : List Exchange} {result : Except Fault α} (h : Leads (next answer) xs result) :
      Leads (.execute c next) (.execute c answer :: xs) result
  | query {c : Command} {next : Except Fault (List Row) → Program α}
      {answer : Except Fault (List Row)} {xs : List Exchange} {result : Except Fault α}
      (h : Leads (next answer) xs result) : Leads (.query c next) (.query c answer :: xs) result
  | close {next : Except Fault Unit → Program α} {answer : Except Fault Unit}
      {xs : List Exchange} {result : Except Fault α} (h : Leads (next answer) xs result) :
      Leads (.close next) (.close answer :: xs) result

/-- **A run ends as its exchanges lead to**, whatever the engine. -/
theorem leads_run (engine : Engine ω β) (p : Program α) (s : Session ω β) :
    p.Leads (p.exchanges engine s) (p.run engine s).2 := by
  induction p generalizing s with
  | done result => exact .done result
  | note e next ih => exact .note (ih (s.note e))
  | execute c next ih => exact .execute (ih _ _)
  | query c next ih => exact .query (ih _ _)
  | close next ih => exact .close (ih _ _)

namespace Leads

variable {p : Program α} {f : α → Program γ} {xs : List Exchange}

/-- The exchanges of a program with something behind it are those of the program, and then those
of what stands behind its end. -/
theorem of_continues {k : Program α → Program γ} (hk : Continues k) {result : Except Fault γ}
    (h : (k p).Leads xs result) :
    ∃ inner ys zs, xs = ys ++ zs ∧ p.Leads ys inner ∧ (k (.done inner)).Leads zs result := by
  induction p generalizing xs with
  | done r => exact ⟨r, [], xs, rfl, .done r, h⟩
  | note e next ih =>
    rw [hk.note] at h
    cases h with
    | note h =>
      obtain ⟨inner, ys, zs, hxs, hp, hend⟩ := ih h
      exact ⟨inner, ys, zs, hxs, .note hp, hend⟩
  | execute c next ih =>
    rw [hk.execute] at h
    cases h with
    | execute h =>
      obtain ⟨inner, ys, zs, rfl, hp, hend⟩ := ih _ h
      exact ⟨inner, _ :: ys, zs, rfl, .execute hp, hend⟩
  | query c next ih =>
    rw [hk.query] at h
    cases h with
    | query h =>
      obtain ⟨inner, ys, zs, rfl, hp, hend⟩ := ih _ h
      exact ⟨inner, _ :: ys, zs, rfl, .query hp, hend⟩
  | close next ih =>
    rw [hk.close] at h
    cases h with
    | close h =>
      obtain ⟨inner, ys, zs, rfl, hp, hend⟩ := ih _ h
      exact ⟨inner, _ :: ys, zs, rfl, .close hp, hend⟩

/-- A program without calls asks for nothing. -/
theorem of_done {result r : Except Fault α} (h : (Program.done r).Leads xs result) :
    xs = [] ∧ result = r := by
  cases h
  exact ⟨rfl, rfl⟩

/-- A program that is put together ends with the fault of its first part, or its first part gives a
value and the second goes on with it. -/
theorem bind {result : Except Fault γ} (h : (p >>= f).Leads xs result) :
    (∃ v ys zs, xs = ys ++ zs ∧ p.Leads ys (.ok v) ∧ (f v).Leads zs result) ∨
      ∃ fault, p.Leads xs (.error fault) ∧ result = .error fault := by
  obtain ⟨inner, ys, zs, rfl, hp, hend⟩ := of_continues (.bind f) h
  cases inner with
  | ok v => exact .inl ⟨v, ys, zs, rfl, hp, hend⟩
  | error fault =>
    obtain ⟨rfl, rfl⟩ := of_done (r := .error fault) hend
    exact .inr ⟨fault, by simpa using hp, rfl⟩

/-- The parts of a program that ends with a value. -/
theorem bind_ok {v : γ} (h : (p >>= f).Leads xs (.ok v)) :
    ∃ u ys zs, xs = ys ++ zs ∧ p.Leads ys (.ok u) ∧ (f u).Leads zs (.ok v) := by
  rcases h.bind with hparts | ⟨fault, -, hresult⟩
  · exact hparts
  · cases hresult

/-- The result of an attempt is a value, whatever it is. -/
theorem attempt {result : Except Fault (Except Fault α)} (h : p.attempt.Leads xs result) :
    ∃ inner, p.Leads xs inner ∧ result = .ok inner := by
  obtain ⟨inner, ys, zs, rfl, hp, hend⟩ := of_continues .attempt h
  obtain ⟨rfl, rfl⟩ := of_done (r := .ok inner) hend
  exact ⟨inner, by simpa using hp, rfl⟩

/-- Behind a report. -/
theorem report {e : Event} {f : Unit → Program γ} {result : Except Fault γ}
    (h : (Program.report e >>= f).Leads xs result) : (f ()).Leads xs result := by
  cases h with
  | note h => exact h

/-- Behind a result that needs no call. -/
theorem lift {r : Except Fault α} {v : γ} (h : ((Program.done r) >>= f).Leads xs (.ok v)) :
    ∃ u, r = .ok u ∧ (f u).Leads xs (.ok v) := by
  cases r with
  | ok u => exact ⟨u, rfl, h⟩
  | error fault => cases h

theorem settle {a : Attempt} {className : String} {answer : Except Fault α}
    {result : Except Fault (Option α)} (h : (Program.settle a className answer).Leads xs result) :
    xs = [] ∧ result = a.resolve className answer := by
  unfold Program.settle at h
  unfold Attempt.resolve
  cases answer with
  | ok v => exact h.of_done
  | error fault =>
    dsimp only at h ⊢
    cases hverdict : a.verdict className fault with
    | none =>
      rw [hverdict] at h
      cases h with
      | note h => exact h.of_done
    | some reported =>
      rw [hverdict] at h
      exact h.of_done

/-- A command that is carried out as an attempt is one exchange, and ends as the attempt says. -/
theorem executeAs {a : Attempt} {className : String} {c : Command}
    {result : Except Fault (Option Nat)}
    (h : (Program.executeAs a className c).Leads xs result) :
    ∃ answer, xs = [.execute c answer] ∧ result = a.resolve className answer := by
  cases h with
  | execute h =>
    obtain ⟨rfl, hresult⟩ := h.settle
    exact ⟨_, rfl, hresult⟩

theorem queryAs {a : Attempt} {className : String} {c : Command}
    {result : Except Fault (Option (List Row))}
    (h : (Program.queryAs a className c).Leads xs result) :
    ∃ answer, xs = [.query c answer] ∧ result = a.resolve className answer := by
  cases h with
  | query h =>
    obtain ⟨rfl, hresult⟩ := h.settle
    exact ⟨_, rfl, hresult⟩

end Leads

/-! ### Commands of programs -/

/-- Every command that a program can send has a property, whatever it is answered. -/
def Sends (P : Command → Prop) : Program α → Prop
  | .done _ => True
  | .note _ next => next.Sends P
  | .execute c next => P c ∧ ∀ answer, (next answer).Sends P
  | .query c next => P c ∧ ∀ answer, (next answer).Sends P
  | .close next => ∀ answer, (next answer).Sends P

namespace Sends

variable {P : Command → Prop} {p : Program α} {f : α → Program γ}

theorem of_continues {k : Program α → Program γ} (hk : Continues k) (hp : p.Sends P)
    (hend : ∀ r, (k (.done r)).Sends P) : (k p).Sends P := by
  induction p with
  | done r => exact hend r
  | note e next ih =>
    rw [hk.note]
    exact ih hp
  | execute c next ih =>
    rw [hk.execute]
    exact ⟨hp.1, fun answer => ih answer (hp.2 answer)⟩
  | query c next ih =>
    rw [hk.query]
    exact ⟨hp.1, fun answer => ih answer (hp.2 answer)⟩
  | close next ih =>
    rw [hk.close]
    exact fun answer => ih answer (hp answer)

theorem lift {r : Except Fault α} (hf : ∀ v, r = .ok v → (f v).Sends P) :
    (Program.done r >>= f).Sends P := by
  cases r with
  | ok v => exact hf v rfl
  | error fault => trivial

theorem bind (hp : p.Sends P) (hf : ∀ v, (f v).Sends P) : (p >>= f).Sends P :=
  of_continues (.bind f) hp fun _ => lift fun v _ => hf v

theorem attempt (hp : p.Sends P) : p.attempt.Sends P :=
  of_continues .attempt hp fun _ => trivial

theorem report {e : Event} {f : Unit → Program γ} (hf : (f ()).Sends P) :
    (Program.report e >>= f).Sends P := hf

theorem settle (a : Attempt) (className : String) (answer : Except Fault α) :
    (Program.settle a className answer).Sends P := by
  unfold Program.settle
  cases answer with
  | ok v => trivial
  | error fault =>
    dsimp only
    cases a.verdict className fault <;> trivial

theorem executeAs {c : Command} (a : Attempt) (className : String) (hc : P c) :
    (Program.executeAs a className c).Sends P := ⟨hc, settle a className⟩

theorem queryAs {c : Command} (a : Attempt) (className : String) (hc : P c) :
    (Program.queryAs a className c).Sends P := ⟨hc, settle a className⟩

theorem perform {c : Command} (hc : P c) : (Program.perform c).Sends P := ⟨hc, fun _ => trivial⟩

theorem rows {c : Command} (hc : P c) : (Program.rows c).Sends P := ⟨hc, fun _ => trivial⟩

theorem forM {act : α → Program Unit} {as : List α} (h : ∀ a ∈ as, (act a).Sends P) :
    (as.forM act).Sends P := by
  induction as with
  | nil => trivial
  | cons a rest ih =>
    exact (h a List.mem_cons_self).bind fun _ => ih fun b hb => h b (List.mem_cons_of_mem _ hb)

/-- **What every command of a program has, every command of a run has.** -/
theorem of_mem {engine : Engine ω β} {s : Session ω β} {x : Exchange} {c : Command}
    (h : p.Sends P) (hx : x ∈ p.exchanges engine s) (hc : x.command? = some c) : P c := by
  induction p generalizing s with
  | done r => cases hx
  | note e next ih => exact ih h hx
  | execute c' next ih =>
    rcases List.mem_cons.1 hx with rfl | hx
    · cases hc
      exact h.1
    · exact ih _ (h.2 _) hx
  | query c' next ih =>
    rcases List.mem_cons.1 hx with rfl | hx
    · cases hc
      exact h.1
    · exact ih _ (h.2 _) hx
  | close next ih =>
    rcases List.mem_cons.1 hx with rfl | hx
    · cases hc
    · exact ih _ (h _) hx

end Sends

end Program

end DocStore
