import DocStore.Proofs.Store.Exchanges
import DocStore.Proofs.Store.Operations
import DocStore.Proofs.Store.Rereads
import DocStore.Proofs.Store.Upsert

/-!
# Checks come before calls

An operation checks its arguments: names are looked at, documents encoded, queries and updates read
and understood (`Operation.check?`).  A check that fails ends the operation before its first call,
and only events tell of it; if the checks pass, there is a call (`Program.Decides`,
`Operation.checks_first`).

An update reads its query a second time, for the documents that it gives back.  What is selected
then was understood before the update was sent, so it can always be written.
-/

namespace DocStore

open Sql

namespace Program

variable {α γ ω β : Type} {check : Except Fault Unit}

/-- The program fails with the fault of a check before it makes a call, or the check passes and it
makes one. -/
def Decides (check : Except Fault Unit) : Program α → Prop
  | .done result => ∃ fault, result = .error fault ∧ check = .error fault
  | .note _ next => next.Decides check
  | .execute _ _ | .query _ _ | .close _ => check = .ok ()

/-- **A run after a check that fails leaves the session as it is**, but for its events. -/
theorem Decides.run_eq {p : Program α} {fault : Fault} (h : p.Decides (.error fault))
    (engine : Engine ω β) (s : Session ω β) :
    ∃ noted, p.run engine s = ({ s with events := s.events ++ noted }, .error fault) := by
  induction p generalizing s with
  | done result =>
    obtain ⟨_, rfl, ⟨⟩⟩ := h
    exact ⟨[], by simp [run]⟩
  | note e next ih =>
    obtain ⟨noted, hrun⟩ := ih h (s.note e)
    refine ⟨e :: noted, ?_⟩
    rw [run, hrun]
    simp [Session.note]
  | execute | query | close => cases h

/-- After a check that fails there is no call. -/
theorem Decides.exchanges_eq_nil {p : Program α} {fault : Fault} (h : p.Decides (.error fault))
    (engine : Engine ω β) (s : Session ω β) : p.exchanges engine s = [] := by
  induction p generalizing s with
  | done result => rfl
  | note e next ih => exact ih h (s.note e)
  | execute | query | close => cases h

/-- After a check that passes there is a call. -/
theorem Decides.exchanges_ne_nil {p : Program α} (h : p.Decides (.ok ())) (engine : Engine ω β)
    (s : Session ω β) : p.exchanges engine s ≠ [] := by
  induction p generalizing s with
  | done result =>
    obtain ⟨_, -, ⟨⟩⟩ := h
  | note e next ih => exact ih h (s.note e)
  | execute | query | close => simp [exchanges]

namespace Decides

theorem report {e : Event} {f : Unit → Program γ} (h : (f ()).Decides check) :
    (Program.report e >>= f).Decides check := h

theorem bind {p : Program α} {f : α → Program γ} (h : p.Decides check) :
    (p >>= f).Decides check := by
  induction p with
  | done result =>
    obtain ⟨fault, rfl, hcheck⟩ := h
    exact ⟨fault, rfl, hcheck⟩
  | note e next ih => exact ih h
  | execute | query | close => exact h

/-- A step that needs no call is a check in front of the others. -/
theorem lift {r : Except Fault α} {f : α → Program γ} {k : α → Except Fault Unit}
    (h : ∀ v, r = .ok v → (f v).Decides (k v)) : (Program.done r >>= f).Decides (r >>= k) := by
  cases r with
  | ok v => exact h v rfl
  | error fault => exact ⟨fault, rfl, rfl⟩

/-- The last check. -/
theorem last {r : Except Fault α} {f : α → Program γ} (h : ∀ v, (f v).Decides (.ok ())) :
    (Program.done r >>= f).Decides (r >>= fun _ => .ok ()) :=
  lift fun v _ => h v

/-- The last check, when what it gives is put into a command. -/
theorem command {r : Except Fault α} {made : α → Command} {f : Command → Program γ}
    (h : ∀ c, (f c).Decides (.ok ())) :
    (Program.done (r.map made) >>= f).Decides (r >>= fun _ => .ok ()) := by
  cases r with
  | ok v => exact h (made v)
  | error fault => exact ⟨fault, rfl, rfl⟩

/-- A check that gives no value. -/
theorem unit {r : Except Fault Unit} {f : Unit → Program γ} (h : (f ()).Decides (.ok ())) :
    (Program.done r >>= f).Decides r := by
  cases r with
  | ok v => exact h
  | error fault => exact ⟨fault, rfl, rfl⟩

theorem fail (fault : Fault) : (Program.fail fault : Program γ).Decides (.error fault) :=
  ⟨fault, rfl, rfl⟩

theorem executeAs (a : Attempt) (className : String) (c : Command) (f : Option Nat → Program γ) :
    (Program.executeAs a className c >>= f).Decides (.ok ()) := rfl

end Decides

end Program

namespace Operation

/-- What an operation finds out about its arguments before its first call, if it looks at them. -/
def check? : Operation → Option (Except Fault Unit)
  | createObject now _ schema object => some do
    let _ ← EncodedRow.ofObject now schema object
    return ()
  | find _ schema query options => some do
    let q ← Query.ofEntries query
    let _ ← q.select schema options
    return ()
  | count _ schema query | deleteObjects _ schema query => some do
    let q ← Query.ofEntries query
    let _ ← q.filter schema
    return ()
  | updateObjects _ schema query update | findOneAndUpdate _ schema query update => some do
    let u ← Update.ofObject schema update
    let q ← Query.ofEntries query
    let _ ← u.changes schema
    let _ ← q.filter schema
    return ()
  | createTable _ className schema | createClass _ className schema =>
    some (ClassSchema.check { schema with className })
  | addField _ _ field _ => some (Names.checkField field)
  | ensureUniqueness className schema fields => some
    (match fields.find? fun name => (schema.storage.fieldType? name).isNone with
    | some missing => .error (.unknownField className missing)
    | none => .ok ())
  | _ => none

end Operation

namespace Store

open Program (Decides)

variable {className : String} {schema : ClassSchema} {query update : Object}

theorem decides_find (options : FindOptions) :
    (find className schema query options).Decides (do
      let q ← Query.ofEntries query
      let _ ← q.select schema options
      return ()) :=
  .report (.lift fun _ _ => .command fun _ => rfl)

/-- Without wishes but a limit, selecting fails where the filter does. -/
theorem check_select_plain (q : Query) (limit : Option Nat) :
    (do
      let _ ← q.select schema { FindOptions.none with limit }
      return () : Except Fault Unit) =
    (do
      let _ ← q.filter schema
      return ()) := by
  cases h : q.filter schema with
  | ok f =>
    rw [Query.select_plain h]
    rfl
  | error fault =>
    unfold Query.select
    rw [h]
    rfl

theorem decides_updateObjects :
    (updateObjects className schema query update).Decides (do
      let u ← Update.ofObject schema update
      let q ← Query.ofEntries query
      let _ ← u.changes schema
      let _ ← q.filter schema
      return ()) := by
  refine .report (.lift fun u _ => ?_)
  by_cases hidle : u.isIdle = true
  · -- such an update has no changes, and its query is understood like any other
    rw [if_pos hidle, Update.changes_of_isIdle hidle]
    have hselect : (Query.ofEntries query >>= fun q => q.select schema .none >>= fun _ => .ok ()) =
        Query.ofEntries query >>= fun q => q.filter schema >>= fun _ => .ok () :=
      congrArg (Query.ofEntries query >>= ·) (funext fun q => check_select_plain q none)
    exact hselect ▸ decides_find .none
  · rw [if_neg hidle]
    refine .lift fun q _ => ?_
    unfold Query.updateCommand
    cases u.changes schema with
    | error fault => exact ⟨fault, rfl, rfl⟩
    | ok changes =>
      cases q.filter schema with
      | error fault => exact ⟨fault, rfl, rfl⟩
      | ok filter => rfl

theorem decides_createTable (registry className : String) (schema : ClassSchema) :
    (createTable registry className schema).Decides
      (ClassSchema.check { schema with className }) :=
  .report (.unit (.bind (.report rfl)))

theorem decides_ensureUniqueness (fields : List String) :
    (ensureUniqueness className schema fields).Decides
      (match fields.find? fun name => (schema.storage.fieldType? name).isNone with
      | some missing => .error (.unknownField className missing)
      | none => .ok ()) := by
  refine .report ?_
  cases fields.find? fun name => (schema.storage.fieldType? name).isNone with
  | some missing => exact .fail _
  | none => exact .executeAs _ _ _ _

end Store

namespace Operation

open Program (Decides)

/-- **Every operation that looks at its arguments does so before its first call.** -/
theorem decides_program {op : Operation} {check : Except Fault Unit} (h : op.check? = some check) :
    op.program.Decides check := by
  cases op with
  | createObject now className schema object =>
    cases h
    exact .report (.last fun _ => rfl)
  | find className schema query options =>
    cases h
    exact Store.decides_find options
  | count className schema query | deleteObjects className schema query =>
    cases h
    exact .report (.lift fun _ _ => .command fun _ => rfl)
  | updateObjects className schema query update =>
    cases h
    exact Store.decides_updateObjects
  | findOneAndUpdate className schema query update =>
    cases h
    exact .report (.bind Store.decides_updateObjects)
  | createTable registry className schema =>
    cases h
    exact Store.decides_createTable registry className schema
  | createClass registry className schema =>
    cases h
    exact .report (.bind (Store.decides_createTable registry className { schema with className }))
  | addField registry className field type =>
    cases h
    exact .report (.unit (.executeAs _ _ _ _))
  | ensureUniqueness className schema fields =>
    cases h
    exact Store.decides_ensureUniqueness fields
  | _ => cases h

end Operation

/-! ### Reading again -/

section Reading

variable {className : String} {schema : ClassSchema} {query update : Object} {q : Query}
  {selection : Selection} {xs : List Exchange}

/-- A program that asks for something has passed the check in front of it. -/
theorem Program.Leads.lift_of_ne_nil {α γ : Type} {r : Except Fault α} {f : α → Program γ}
    {result : Except Fault γ} (h : (Program.done r >>= f).Leads xs result) (hne : xs ≠ []) :
    ∃ v, r = .ok v ∧ (f v).Leads xs result := by
  cases r with
  | ok v => exact ⟨v, rfl, h⟩
  | error fault =>
    cases h
    exact absurd rfl hne

theorem Program.Leads.lift_ok {α γ : Type} {r : Except Fault α} {f : α → Program γ} {v : α}
    {result : Except Fault γ} (h : (Program.done r >>= f).Leads xs result) (hr : r = .ok v) :
    (f v).Leads xs result := by
  subst hr
  exact h

namespace Store

/-- A search that was understood is one exchange. -/
theorem leads_find_of_ok {options : FindOptions} {result : Except Fault (List Object)}
    (hq : Query.ofEntries query = .ok q) (hselection : q.select schema options = .ok selection)
    (h : (find className schema query options).Leads xs result) :
    ∃ rows, xs = [.query (.select className selection) rows] := by
  have h := (h.report.lift_ok hq).lift_ok (Query.selectCommand_eq_ok.2 ⟨_, hselection, rfl⟩)
  rcases h.bind with ⟨rows, ys, zs, rfl, hrows, hdone⟩ | ⟨fault, hrows, -⟩
  · obtain ⟨answer, rfl, -⟩ := hrows.queryAs
    obtain ⟨rfl, -⟩ := hdone.of_done
    exact ⟨answer, rfl⟩
  · obtain ⟨answer, rfl, -⟩ := hrows.queryAs
    exact ⟨answer, rfl⟩

/-- A search asks for nothing but rows. -/
theorem not_mem_of_leads_find {options : FindOptions} {result : Except Fault (List Object)}
    (h : (find className schema query options).Leads xs result) (c : Command)
    (answer : Except Fault Nat) : .execute c answer ∉ xs := by
  intro hmem
  have hne : xs ≠ [] := List.ne_nil_of_mem hmem
  obtain ⟨q, hq, h'⟩ := h.report.lift_of_ne_nil hne
  obtain ⟨c', hc', -⟩ := h'.lift_of_ne_nil hne
  obtain ⟨selection, hselection, -⟩ := Query.selectCommand_eq_ok.1 hc'
  obtain ⟨rows, rfl⟩ := leads_find_of_ok hq hselection h
  simp at hmem

/-- The exchanges of an update that was sent.  If it has changed documents, these are read again,
and if it has not, nothing follows. -/
inductive Rereads (className : String) (schema : ClassSchema) (query : Object) (c : Command) :
    List Exchange → Prop where
  | alone (answer : Except Fault Nat) (hnone : ∀ n, answer ≠ .ok (n + 1)) :
    Rereads className schema query c [.execute c answer]
  | again {n : Nat} {q : Query} {selection : Selection} {text : String}
    (rows : Except Fault (List Row)) (hq : Query.ofEntries query = .ok q)
    (hselection :
      q.select schema { FindOptions.none with limit := some (n + 1) } = .ok selection)
    (htext : (Command.select className selection).render = .ok text) :
    Rereads className schema query c
      [.execute c (.ok (n + 1)), .query (.select className selection) rows]

theorem rereads_of_leads {table : String} {made : List Change} {filter : Filter}
    {answer : Except Fault Nat} {result : Except Fault (List Object)}
    (h : (updateObjects className schema query update).Leads xs result)
    (hsent : .execute (.update table made filter) answer ∈ xs) :
    Rereads className schema query (.update table made filter) xs := by
  have hne : xs ≠ [] := List.ne_nil_of_mem hsent
  obtain ⟨u, -, h⟩ := h.report.lift_of_ne_nil hne
  by_cases hidle : u.isIdle = true
  · -- nothing is sent but a search
    rw [if_pos hidle] at h
    exact absurd hsent (not_mem_of_leads_find h _ _)
  · rw [if_neg hidle] at h
    obtain ⟨q, hq, h⟩ := h.lift_of_ne_nil hne
    obtain ⟨c, hc, h⟩ := h.lift_of_ne_nil hne
    obtain ⟨changes, f, -, hf, rfl⟩ := Query.updateCommand_eq_ok.1 hc
    rcases h.bind with ⟨affected, ys, zs, rfl, hupdate, hrest⟩ | ⟨fault, hupdate, -⟩
    · obtain ⟨first, rfl, hfirst⟩ := hupdate.executeAs
      obtain ⟨n, rfl, rfl⟩ := Attempt.resolve_updateObjects_eq_ok hfirst.symm
      cases n with
      | zero =>
        obtain ⟨rfl, -⟩ := hrest.of_done
        obtain ⟨⟨⟩, rfl⟩ : Command.update table made filter = .update className changes f ∧
            answer = .ok 0 := by simpa using hsent
        exact .alone _ nofun
      | succ n =>
        have hselection := Query.select_plain hf (some (n + 1))
        obtain ⟨rows, rfl⟩ := leads_find_of_ok hq hselection hrest
        obtain ⟨⟨⟩, rfl⟩ : Command.update table made filter = .update className changes f ∧
            answer = .ok (n + 1) := by simpa using hsent
        exact .again rows hq hselection (Command.render_eq trivial)
    · obtain ⟨first, rfl, hfirst⟩ := hupdate.executeAs
      obtain ⟨⟨⟩, rfl⟩ : Command.update table made filter = .update className changes f ∧
          answer = first := by simpa using hsent
      refine .alone _ fun n hn => ?_
      rw [hn] at hfirst
      cases hfirst

end Store

end Reading

namespace Operation

/-- **Checks come before calls.**  An operation whose check of its arguments fails ends with this
fault, and the session is as it was but for its events: nothing was called, no connection was opened
or given up, and the engine has seen nothing.  If the check passes, there is a call.  And after an
update that was sent, the selection of its documents can be written. -/
theorem checks_first {ω β : Type} (engine : Engine ω β) (s : Session ω β) :
    (∀ op check, check? op = some check →
      (∀ fault, check = .error fault → ∃ noted,
        op.program.run engine s = ({ s with events := s.events ++ noted }, .error fault)) ∧
      (check = .ok () → op.program.exchanges engine s ≠ [])) ∧
    ∀ className schema query update table made filter answer,
      .execute (.update table made filter) answer ∈
        (Store.updateObjects className schema query update).exchanges engine s →
      Store.Rereads className schema query (.update table made filter)
        ((Store.updateObjects className schema query update).exchanges engine s) := by
  refine ⟨fun op check hcheck => ⟨?_, ?_⟩, fun className schema query update table made filter
    answer hsent => Store.rereads_of_leads (Program.leads_run _ _ _) hsent⟩
  · rintro fault rfl
    exact (decides_program hcheck).run_eq engine s
  · rintro rfl
    exact (decides_program hcheck).exchanges_ne_nil engine s

/-- An open connection that cannot be used any more. -/
def staleLine : Session Script Line := .opened "" .broken ⟨[⟨none, 2, [], false⟩], [], none⟩

/-- A query with an operator that there is not is refused, and the connection is left as it is,
unusable or not; one for an identifier is sent over a new connection, and read again. -/
theorem checks_first_widget :
    (∃ noted, (program (.updateObjects "Widget" Store.widget [("$nor", .null)]
        Store.countOn)).run Script.engine staleLine =
      ({ staleLine with events := noted }, .error (.unsupportedQuery "$nor" "null"))) ∧
    ∃ made filter, Store.Rereads "Widget" Store.widget [("objectId", .str "abc")]
      (.update "Widget" made filter)
      ((Store.updateObjects "Widget" Store.widget [("objectId", .str "abc")]
        Store.countOn).exchanges Script.engine staleLine) := by
  obtain ⟨hchecks, hrereads⟩ := checks_first Script.engine staleLine
  refine ⟨(hchecks (.updateObjects "Widget" Store.widget [("$nor", .null)] Store.countOn) _ rfl).1
    _ rfl, ?_⟩
  obtain ⟨made, filter, selection, hexchanges⟩ : ∃ made filter selection,
      (Store.updateObjects "Widget" Store.widget [("objectId", .str "abc")]
        Store.countOn).exchanges Script.engine staleLine =
      [.execute (.update "Widget" made filter) (.ok 2),
        .query (.select "Widget" selection) (.ok [])] := ⟨_, _, _, rfl⟩
  exact ⟨made, filter, hrereads "Widget" Store.widget _ Store.countOn "Widget" made filter (.ok 2)
    (hexchanges ▸ List.mem_cons_self)⟩

end Operation

end DocStore
