import DocStore.Proofs.Store.Checks

/-!
# Creating a class

Commands that a program performs in order stop at the first that fails (`InOrder`), and the program
ends with its fault (`Program.Performs`).  Creating a class performs the creation of the registry,
of the class table and of the join tables, and only then registers the class
(`Store.createClass_registers_last`).
-/

namespace DocStore

/-- Commands executed in order up to the first that fails: the exchanges, and that command with its
fault, if there is one. -/
inductive InOrder : List Command → List Exchange → Option (Command × Fault) → Prop where
  | done : InOrder [] [] none
  | next {c : Command} {cs : List Command} {xs : List Exchange}
      {failure : Option (Command × Fault)} (n : Nat) (h : InOrder cs xs failure) :
      InOrder (c :: cs) (.execute c (.ok n) :: xs) failure
  | stopped (c : Command) (cs : List Command) (fault : Fault) :
      InOrder (c :: cs) [.execute c (.error fault)] (some (c, fault))

namespace InOrder

variable {cs ds : List Command} {xs ys : List Exchange} {failure : Option (Command × Fault)}

/-- Behind commands that all succeed, others follow. -/
theorem append (hcs : InOrder cs xs none) (hds : InOrder ds ys failure) :
    InOrder (cs ++ ds) (xs ++ ys) failure := by
  generalize hnone : (none : Option (Command × Fault)) = outcome at hcs
  induction hcs with
  | done => exact hds
  | next n _ ih => exact .next n (ih hnone)
  | stopped c cs fault => cases hnone

/-- Behind a command that fails, nothing follows. -/
theorem append_stopped {failed : Command × Fault} (hcs : InOrder cs xs (some failed))
    (ds : List Command) : InOrder (cs ++ ds) xs (some failed) := by
  generalize hsome : some failed = outcome at hcs ⊢
  induction hcs with
  | done => cases hsome
  | next n _ ih => exact .next n (ih hsome)
  | stopped c cs fault => exact .stopped c (cs ++ ds) fault

/-- What is sent is the beginning of what is to be sent. -/
theorem isPrefix (h : InOrder cs xs failure) : xs.filterMap Exchange.command? <+: cs := by
  induction h with
  | done => exact List.nil_prefix
  | next n _ ih => exact List.cons_prefix_cons.2 ⟨rfl, ih⟩
  | stopped c cs fault => exact List.cons_prefix_cons.2 ⟨rfl, List.nil_prefix⟩

/-- A command behind others is sent only after each of these has been answered with a number of
rows. -/
theorem exists_counts {last : Command} {answer : Except Fault Nat}
    (h : InOrder (cs ++ [last]) xs failure) (hlast : last ∉ cs)
    (hsent : .execute last answer ∈ xs) :
    ∃ counts : List Nat, counts.length = cs.length ∧
      xs = List.zipWith (fun c n => .execute c (.ok n)) cs counts ++ [.execute last answer] := by
  induction cs generalizing xs with
  | nil =>
    cases h with
    | next n h =>
      cases h
      exact ⟨[], rfl, by rw [List.mem_singleton.1 hsent]; rfl⟩
    | stopped => exact ⟨[], rfl, by rw [List.mem_singleton.1 hsent]; rfl⟩
  | cons c cs ih =>
    obtain ⟨hne, hlast⟩ := not_or.1 (List.mem_cons.not.1 hlast)
    cases h with
    | next n h =>
      rcases List.mem_cons.1 hsent with hfirst | hsent
      · cases hfirst
        exact absurd rfl hne
      · obtain ⟨counts, hlength, rfl⟩ := ih h hlast hsent
        exact ⟨n :: counts, by simp [hlength], rfl⟩
    | stopped c _ fault =>
      cases List.mem_singleton.1 hsent
      exact absurd rfl hne

/-- A command that is answered with a fault is the one that fails. -/
theorem eq_stopped {c : Command} {fault : Fault} (h : InOrder cs xs failure)
    (hsent : .execute c (.error fault) ∈ xs) : failure = some (c, fault) := by
  induction h with
  | done => cases hsent
  | next n _ ih =>
    rcases List.mem_cons.1 hsent with hfirst | hsent
    · cases hfirst
    · exact ih hsent
  | stopped _ cs _ =>
    cases List.mem_singleton.1 hsent
    rfl

/-- The command that fails is one of those that are to be sent. -/
theorem mem_of_stopped {failed : Command × Fault} (h : InOrder cs xs (some failed)) :
    failed.1 ∈ cs := by
  generalize hsome : some failed = outcome at h
  induction h with
  | done => cases hsome
  | next n _ ih => exact List.mem_cons_of_mem _ (ih hsome)
  | stopped c cs fault =>
    cases hsome
    exact List.mem_cons_self

end InOrder

namespace Program

variable {cs ds : List Command} {p q : Program Unit}

/-- A program that performs commands in order, and ends with the fault of the first that fails. -/
def Performs (cs : List Command) (p : Program Unit) : Prop :=
  ∀ xs result, p.Leads xs result → ∃ failure, InOrder cs xs failure ∧
    result = match failure with
      | none => .ok ()
      | some (_, fault) => .error fault

namespace Performs

theorem perform (c : Command) : (Program.perform c).Performs [c] := by
  intro xs result h
  cases h with
  | @execute _ _ answer ys _ h =>
    obtain ⟨rfl, rfl⟩ := h.of_done
    cases answer with
    | ok n => exact ⟨none, .next n .done, rfl⟩
    | error fault => exact ⟨some (c, fault), .stopped c [] fault, rfl⟩

theorem report (e : Event) : (Program.report e).Performs [] := by
  intro xs result h
  cases h with
  | note h =>
    obtain ⟨rfl, rfl⟩ := h.of_done
    exact ⟨none, .done, rfl⟩

theorem bind (hp : p.Performs cs) (hq : q.Performs ds) :
    (p >>= fun _ => q).Performs (cs ++ ds) := by
  intro xs result h
  rcases h.bind with ⟨_, ys, zs, rfl, hfirst, hrest⟩ | ⟨fault, hfirst, rfl⟩
  · obtain ⟨_ | failed, hys, hok⟩ := hp _ _ hfirst
    · obtain ⟨failure, hzs, hresult⟩ := hq _ _ hrest
      exact ⟨failure, hys.append hzs, hresult⟩
    · cases hok
  · obtain ⟨_ | failed, hxs, herror⟩ := hp _ _ hfirst
    · cases herror
    · exact ⟨some failed, hxs.append_stopped ds, by rw [Except.error.inj herror]⟩

theorem forM (cs : List Command) : (cs.forM Program.perform).Performs cs := by
  induction cs with
  | nil =>
    intro xs result h
    obtain ⟨rfl, rfl⟩ := h.of_done
    exact ⟨none, .done, rfl⟩
  | cons c cs ih => exact (perform c).bind ih

end Performs

end Program

/-- Names pass the check if and only if each of them does. -/
theorem Names.forM_checkField {names : List String} :
    names.forM checkField = .ok () ↔ ∀ name ∈ names, checkField name = .ok () := by
  induction names with
  | nil => exact ⟨fun _ => nofun, fun _ => rfl⟩
  | cons name rest ih =>
    rw [List.forall_mem_cons, ← ih]
    refine Result.bind_eq_ok.trans ⟨?_, fun ⟨hname, hrest⟩ => ⟨(), hname, hrest⟩⟩
    rintro ⟨⟨⟩, hname, hrest⟩
    exact ⟨hname, hrest⟩

theorem ClassSchema.check_eq_ok {s : ClassSchema} :
    s.check = .ok () ↔ Names.checkClass s.className = .ok () ∧
      ∀ name ∈ s.fields.keys, Names.checkField name = .ok () := by
  rw [← Names.forM_checkField]
  refine Result.bind_eq_ok.trans ⟨?_, fun ⟨hclass, hfields⟩ => ⟨(), hclass, hfields⟩⟩
  rintro ⟨⟨⟩, hclass, hfields⟩
  exact ⟨hclass, hfields⟩

/-- What a failed registration is reported as: a duplicate entry as a class that is there already,
and every other failure as it is. -/
theorem Attempt.resolve_createClass_error (className : String) (fault : Fault) :
    Attempt.createClass.resolve className (.error fault : Except Fault Nat) =
      .error (if fault.engineNumber = some EngineError.duplicateEntry then
        .duplicateClass className else fault) := by
  unfold resolve verdict
  cases hnumber : fault.engineNumber with
  | none => simp [hnumber]
  | some number => simp [hnumber, harmless?, meaning]

namespace Store

/-- The commands that make the tables of a class: the registry, the class table, and a join table
for every relation in the order of the fields. -/
def tableCommands (registry className : String) (schema : ClassSchema) : List Command :=
  .createRegistry registry :: Command.createTables className schema

theorem performs_createTable {className : String} {schema : ClassSchema}
    (hcheck : ClassSchema.check { schema with className } = .ok ()) (registry : String) :
    (createTable registry className schema).Performs (tableCommands registry className schema) := by
  have htables : Program.Performs (tableCommands registry className schema)
      (ensureRegistry registry >>= fun _ =>
        (Command.createTables className schema).forM Program.perform) :=
    ((Program.Performs.report _).bind (.perform _)).bind (.forM _)
  refine (Program.Performs.report _).bind ?_
  rw [hcheck]
  exact htables

theorem register_not_mem_tableCommands (registry className : String) (schema : ClassSchema)
    (document : Json) :
    Command.register registry className document ∉ tableCommands registry className schema := by
  simp [tableCommands, Command.createTables]

/-- The fault of a creation when a command fails: only a duplicate entry at the registration is
reported as another. -/
def creationFault (className : String) : Command → Fault → Fault
  | .register _ _ _, fault =>
    if fault.engineNumber = some EngineError.duplicateEntry then .duplicateClass className
    else fault
  | _, fault => fault

theorem creationFault_eq_self {className : String} {c : Command} {fault : Fault}
    (h : (∃ registry name document, c = .register registry name document) →
      fault.engineNumber ≠ some EngineError.duplicateEntry) :
    creationFault className c fault = fault := by
  cases c with
  | register registry name document => exact if_neg (h ⟨registry, name, document, rfl⟩)
  | _ => rfl

/-- **The course of a creation**: the tables first, then the registration. -/
theorem inOrder_of_leads_createClass {registry className : String} {schema : ClassSchema}
    {xs : List Exchange} {result : Except Fault ClassSchema}
    (hcheck : ClassSchema.check { schema with className } = .ok ())
    (h : (createClass registry className schema).Leads xs result) :
    let named := { schema with className }
    ∃ failure, InOrder (tableCommands registry className named ++
        [.register registry className named.toJson]) xs failure ∧
      result = match failure with
        | none => .ok named.host
        | some (c, fault) => .error (creationFault className c fault) := by
  intro named
  have hnamed : ClassSchema.check { named with className } = .ok () := hcheck
  have htables := performs_createTable hnamed registry
  rcases h.report.bind with ⟨_, ys, zs, rfl, hmade, hrest⟩ | ⟨fault, hmade, rfl⟩
  · -- the tables are there, and the registration is the last exchange
    obtain ⟨_ | failed, hys, hok⟩ := htables _ _ hmade
    · rcases hrest.bind with ⟨_, us, vs, rfl, hregister, hdone⟩ | ⟨fault, hregister, rfl⟩
      · obtain ⟨rfl, rfl⟩ := hdone.of_done
        obtain ⟨answer, rfl, hresolve⟩ := hregister.executeAs
        cases answer with
        | ok n => exact ⟨none, hys.append (.next n .done), rfl⟩
        | error e =>
          rw [Attempt.resolve_createClass_error] at hresolve
          cases hresolve
      · obtain ⟨answer, rfl, hresolve⟩ := hregister.executeAs
        cases answer with
        | ok n => cases hresolve
        | error e =>
          rw [Attempt.resolve_createClass_error] at hresolve
          exact ⟨some (_, e), hys.append (.stopped _ [] e), congrArg _ (Except.error.inj hresolve)⟩
    · cases hok
  · -- a table could not be made
    obtain ⟨_ | ⟨c, e⟩, hxs, herror⟩ := htables _ _ hmade
    · cases herror
    · have hother : creationFault className c e = e := by
        refine creationFault_eq_self ?_
        rintro ⟨r, name, document, rfl⟩
        have hmem := hxs.mem_of_stopped
        simp [tableCommands, Command.createTables] at hmem
      cases herror
      exact ⟨some (c, fault), hxs.append_stopped _, congrArg Except.error hother.symm⟩

/-- **A class is registered after its tables are made.**  If the class name or a field name is not
valid, nothing is sent.  Otherwise the commands are sent in order up to the first that fails: the
creation of the registry, of the class table and of a join table for every relation, and the
registration.  So the registration is sent only after all of the others have succeeded.  The host
view of the class is given back if and only if all commands succeed; a duplicate entry at the
registration means that there is such a class, and every other failure is given back as it is. -/
theorem createClass_registers_last {ω β : Type} (engine : Engine ω β) (s : Session ω β)
    (registry className : String) (schema : ClassSchema) :
    let named := { schema with className }
    let tables := .createRegistry registry :: .createTable className named.columns ::
      named.relationFields.map fun field =>
        Command.createJoinTable (Names.joinTable className field)
    let registration := .register registry className named.toJson
    let p := createClass registry className schema
    let xs := p.exchanges engine s
    let result := (p.run engine s).2
    ((∃ fault, Names.checkClass className = .error fault) ∨
        (∃ name ∈ schema.fields.keys, ∃ fault, Names.checkField name = .error fault) →
      xs = [] ∧ ∃ fault noted, named.check = .error fault ∧
        p.run engine s = ({ s with events := s.events ++ noted }, .error fault)) ∧
    (Names.checkClass className = .ok () →
        (∀ name ∈ schema.fields.keys, Names.checkField name = .ok ()) →
      ∃ failure, InOrder (tables ++ [registration]) xs failure ∧
        xs.filterMap Exchange.command? <+: tables ++ [registration] ∧
        (∀ answer, .execute registration answer ∈ xs → ∃ counts : List Nat,
          counts.length = tables.length ∧
          xs = List.zipWith (fun c n => .execute c (.ok n)) tables counts ++
            [.execute registration answer]) ∧
        (∀ view, result = .ok view ↔ failure = none ∧ view = named.host) ∧
        (∀ fault, failure = some (registration, fault) →
          fault.engineNumber = some EngineError.duplicateEntry →
          result = .error (.duplicateClass className)) ∧
        ∀ c fault, failure = some (c, fault) →
          (c = registration → fault.engineNumber ≠ some EngineError.duplicateEntry) →
          result = .error fault) := by
  intro named tables registration p xs result
  let creation := Operation.createClass registry className schema
  have hdecides : creation.program.Decides named.check := Operation.decides_program rfl
  constructor
  · intro hinvalid
    have hcheck : named.check ≠ .ok () := by
      intro hcheck
      obtain ⟨hclass, hfields⟩ := ClassSchema.check_eq_ok.1 hcheck
      rcases hinvalid with ⟨fault, herror⟩ | ⟨name, hname, fault, herror⟩
      · rw [hclass] at herror
        cases herror
      · rw [hfields name hname] at herror
        cases herror
    cases hfault : named.check with
    | ok _ => exact absurd hfault hcheck
    | error fault =>
      rw [hfault] at hdecides
      obtain ⟨noted, hrun⟩ := hdecides.run_eq engine s
      exact ⟨hdecides.exchanges_eq_nil engine s, fault, noted, rfl, hrun⟩
  · intro hclass hfields
    obtain ⟨failure, horder, hresult⟩ :=
      inOrder_of_leads_createClass (ClassSchema.check_eq_ok.2 ⟨hclass, hfields⟩)
        (p.leads_run engine s)
    refine ⟨failure, horder, horder.isPrefix, fun answer hsent =>
      horder.exists_counts (register_not_mem_tableCommands _ _ _ _) hsent, fun view => ?_, ?_, ?_⟩
    · cases failure with
      | none => exact hresult.congr_left.trans (by simp [eq_comm, named])
      | some failed => exact hresult.congr_left.trans (by simp)
    · rintro fault rfl hduplicate
      exact hresult.trans (congrArg _ (if_pos hduplicate))
    · rintro c fault rfl hother
      have hself : creationFault className c fault = fault := by
        refine creationFault_eq_self ?_
        rintro ⟨r, name, document, rfl⟩
        obtain ⟨rfl, rfl, rfl⟩ : r = registry ∧ name = className ∧ document = named.toJson := by
          simpa [tableCommands, Command.createTables] using horder.mem_of_stopped
        exact hother rfl
      exact hresult.trans (congrArg Except.error hself)

/-- An open connection that fails at the fourth statement with a duplicate entry. -/
def fourthDuplicate : Session Script Line :=
  .opened "" .sound
    ⟨[⟨none, 0, [], false⟩, ⟨none, 0, [], false⟩, ⟨none, 0, [], false⟩,
      ⟨some (.engine (some EngineError.duplicateEntry) "Duplicate entry"), 0, [], false⟩], [], none⟩

/-- Clubs, which have members. -/
def club : ClassSchema := (ClassSchema.named "Club").field "members" (.relation "_User")

/-- Clubs are not created under a name that begins with a digit.  Under their own name the table
of their members is made as the third, and a duplicate at the registration is found out as the
fourth. -/
theorem createClass_registers_last_club :
    (createClass "_SCHEMA" "9lives" club).exchanges Script.engine fourthDuplicate = [] ∧
      ((createClass "_SCHEMA" "Club" club).run Script.engine fourthDuplicate).2 =
        .error (.duplicateClass "Club") := by
  obtain ⟨hinvalid, -⟩ :=
    createClass_registers_last Script.engine fourthDuplicate "_SCHEMA" "9lives" club
  obtain ⟨-, hvalid⟩ :=
    createClass_registers_last Script.engine fourthDuplicate "_SCHEMA" "Club" club
  have hclass : Names.checkClass "Club" = .ok () := rfl
  have hfields : ∀ name ∈ club.fields.keys, Names.checkField name = .ok () := by decide
  let duplicate : Fault := .engine (some EngineError.duplicateEntry) "Duplicate entry"
  obtain ⟨first, second, third, hexchanges⟩ : ∃ first second third,
      (createClass "_SCHEMA" "Club" club).exchanges Script.engine fourthDuplicate =
        [first, second, third, .execute (.register "_SCHEMA" "Club" club.toJson)
          (.error duplicate)] :=
    ⟨_, _, _, rfl⟩
  refine ⟨(hinvalid (.inl ⟨.invalidClassName "9lives", rfl⟩)).1, ?_⟩
  obtain ⟨failure, horder, -, -, -, hduplicate, -⟩ := hvalid hclass hfields
  have hsent : .execute (.register "_SCHEMA" "Club" club.toJson) (.error duplicate) ∈
      (createClass "_SCHEMA" "Club" club).exchanges Script.engine fourthDuplicate := by
    rw [hexchanges]
    simp
  exact hduplicate duplicate (horder.eq_stopped hsent) rfl

end Store

end DocStore
