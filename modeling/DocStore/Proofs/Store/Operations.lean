import DocStore.Engine.Script
import DocStore.Proofs.Command.Condition
import DocStore.Proofs.Store.Course
import DocStore.Store.Classes

/-!
# Failures of operations

What becomes of a failure on the way through an operation of the store.  `Operation` lists the
operations, all but the probe `Store.classExists`, which answers a failure with a no.
`Operation.attempt` says as what an operation attempts each of its commands, and
`Operation.excuses` lists the error numbers that do not end it.

`Operation.reports_failure` says that there is nothing else: any other failure that the engine
notices ends the operation then and there, and is reported.
-/

namespace DocStore

/-- An operation with its arguments. -/
inductive Operation where
  | createObject (now className : String) (schema : ClassSchema) (object : Object)
  | find (className : String) (schema : ClassSchema) (query : Object) (options : FindOptions)
  | count (className : String) (schema : ClassSchema) (query : Object)
  | updateObjects (className : String) (schema : ClassSchema) (query update : Object)
  | findOneAndUpdate (className : String) (schema : ClassSchema) (query update : Object)
  | upsertObject (now className : String) (schema : ClassSchema) (query update : Object)
  | deleteObjects (className : String) (schema : ClassSchema) (query : Object)
  | shutdown
  | ensureRegistry (registry : String)
  | createTable (registry className : String) (schema : ClassSchema)
  | createClass (registry className : String) (schema : ClassSchema)
  | addField (registry className field : String) (type : FieldType)
  | deleteFields (registry className : String) (schema : ClassSchema) (fields : List String)
  | deleteClass (registry className : String)
  | ensureUniqueness (className : String) (schema : ClassSchema) (fields : List String)
  | createFullTextIndex (className : String) (fields : List String)
  | allClasses (registry : String)
  | getClass (registry className : String)
  | setPermissions (registry className : String) (permissions : Permissions)
  | deleteAllClasses (config : Config)
  | bootstrap (registry : String) (schemas : List ClassSchema)

/-- What an operation does about an error number that does not end it as a failure. -/
inductive Remedy where
  /-- Go on as if the command had succeeded, with no rows. -/
  | proceed
  /-- Count as done. -/
  | succeed
  /-- Report that there was nothing to find. -/
  | notFound
  /-- Update instead of inserting. -/
  | update
  deriving DecidableEq, Repr

namespace Operation

/-- What an operation gives. -/
def Answer : Operation → Type
  | createObject .. => Object
  | find .. => List Object
  | count .. => Nat
  | updateObjects .. => List Object
  | findOneAndUpdate .. => Option Object
  | deleteObjects .. => Nat
  | createClass .. => ClassSchema
  | deleteClass .. => Bool
  | allClasses .. => List ClassSchema
  | getClass .. => Option ClassSchema
  | upsertObject .. | shutdown | ensureRegistry .. | createTable .. | addField .. | deleteFields ..
  | ensureUniqueness .. | createFullTextIndex .. | setPermissions .. | deleteAllClasses ..
  | bootstrap .. => Unit

/-- The program of an operation. -/
def program : (op : Operation) → Program op.Answer
  | createObject now className schema object => Store.createObject now className schema object
  | find className schema query options => Store.find className schema query options
  | count className schema query => Store.count className schema query
  | updateObjects className schema query update =>
    Store.updateObjects className schema query update
  | findOneAndUpdate className schema query update =>
    Store.findOneAndUpdate className schema query update
  | upsertObject now className schema query update =>
    Store.upsertObject now className schema query update
  | deleteObjects className schema query => Store.deleteObjects className schema query
  | shutdown => Store.shutdown
  | ensureRegistry registry => Store.ensureRegistry registry
  | createTable registry className schema => Store.createTable registry className schema
  | createClass registry className schema => Store.createClass registry className schema
  | addField registry className field type => Store.addField registry className field type
  | deleteFields registry className schema fields =>
    Store.deleteFields registry className schema fields
  | deleteClass registry className => Store.deleteClass registry className
  | ensureUniqueness className schema fields => Store.ensureUniqueness className schema fields
  | createFullTextIndex className fields => Store.createFullTextIndex className fields
  | allClasses registry => Store.allClasses registry
  | getClass registry className => Store.getClass registry className
  | setPermissions registry className permissions =>
    Store.setPermissions registry className permissions
  | deleteAllClasses config => Store.deleteAllClasses config
  | bootstrap registry schemas => Store.bootstrap registry schemas

/-- The class, or the table, that an operation is about. -/
def subject : Operation → String
  | createObject _ className .. | find className .. | count className ..
  | updateObjects className .. | findOneAndUpdate className .. | upsertObject _ className ..
  | deleteObjects className .. | createTable _ className _ | createClass _ className _
  | addField _ className .. | deleteFields _ className .. | deleteClass _ className
  | ensureUniqueness className .. | createFullTextIndex className _ | getClass _ className
  | setPermissions _ className _ => className
  | ensureRegistry registry | allClasses registry | bootstrap registry _ => registry
  | deleteAllClasses config => config.registry
  | shutdown => ""

/-- As what an operation attempts a command. -/
def attemptOf : Operation → Command → Attempt
  | createObject .., .insert .. | upsertObject .., .insert .. => .createObject
  | updateObjects .., .update .. | findOneAndUpdate .., .update .. | upsertObject .., .update .. =>
    .updateObjects
  | find .., .select .. | updateObjects .., .select .. | findOneAndUpdate .., .select ..
  | upsertObject .., .select .. | count .., .count .. => .read
  | deleteObjects .., .delete .. => .deleteObjects
  | createClass .., .register .. => .createClass
  | addField .., .addColumn .. | addField .., .createJoinTable .. => .addField
  | ensureUniqueness .., .addUnique .. => .ensureUniqueness
  | createFullTextIndex .., .addFullText .. => .fullTextIndex
  | deleteAllClasses .., .selectClasses .. | deleteAllClasses .., .dropTables .. => .read
  | _, _ => .other

/-- As what an operation makes a call. -/
def attempt (op : Operation) (r : Request) : Attempt :=
  match r.command? with
  | some c => op.attemptOf c
  | none => .other

/-- The error numbers that do not end an operation as a failure, and what it does about them. -/
def excuses : Operation → Command → List (Nat × Remedy)
  | addField .., .addColumn .. | addField .., .createJoinTable .. => [(1060, .proceed)]
  | createObject .., .insert .. => [(1265, .proceed)]
  | ensureUniqueness .., .addUnique .. => [(1061, .proceed)]
  | createFullTextIndex .., .addFullText .. => [(1061, .proceed)]
  | find .., .select .. | updateObjects .., .select .. | findOneAndUpdate .., .select ..
  | upsertObject .., .select .. | count .., .count .. => [(1146, .proceed)]
  | deleteAllClasses .., .selectClasses .. => [(1146, .succeed)]
  | deleteAllClasses .., .dropTables .. => [(1146, .proceed)]
  | deleteObjects .., .delete .. => [(1146, .notFound)]
  | upsertObject .., .insert .. => [(1265, .proceed), (1062, .update)]
  | _, _ => []

/-- What an operation does about a failure of a call, if it does not report it. -/
def remedy? (op : Operation) (r : Request) (e : Fault) : Option Remedy := do
  let c ← r.command?
  let number ← e.engineNumber
  (op.excuses c).lookup number

/-- How an operation goes on with a remedy, where `idle` is how it would go on if the call had
succeeded with nothing. -/
def afterwards : (op : Operation) → Remedy → (idle : Program op.Answer) → Program op.Answer
  | _, .proceed, idle => idle
  | _, .notFound, _ => .fail .objectNotFound
  | deleteAllClasses _, .succeed, _ => .done (.ok ())
  | upsertObject _ className schema query update, .update, _ => do
    let _ ← Store.findOneAndUpdate className schema query update
    return ()
  | _, _, idle => idle

/-- A failure of the first call is reported, as the attempt has it, or it has a remedy. -/
def Treats (op : Operation) (q : Program op.Answer) (e : Fault) : Prop :=
  ∀ r, q.request? = some r →
    match op.remedy? r e with
    | none => ∃ reported, (op.attempt r).verdict op.subject e = some reported ∧
        q.failing e = .done (.error reported)
    | some remedy => q.failing e = op.afterwards remedy q.idle ∨
        ∃ event, q.failing e = .note event (op.afterwards remedy q.idle)

section Attempts

variable {op : Operation}

/-- Exactly the failures of a command that do no harm have a remedy, which is this one. -/
def Excuses (op : Operation) (remedy : Remedy) (c : Command) : Prop :=
  op.excuses c = ((op.attemptOf c).harmless?.map fun number => (number, remedy)).toList

theorem remedy?_of_excuses {r : Request} {remedy : Remedy}
    (h : ∀ c, r.command? = some c → op.Excuses remedy c) (e : Fault) :
    op.remedy? r e = if (op.attempt r).verdict op.subject e = none then some remedy else none := by
  unfold Operation.remedy? Operation.attempt
  cases hcommand : r.command? with
  | none => simp [Program.verdict_other]
  | some c =>
    have hexcuses : op.excuses c = _ := h c hcommand
    cases hnumber : e.engineNumber with
    | none => simp [Attempt.verdict, hnumber]
    | some number =>
      by_cases hharmless : (op.attemptOf c).harmless? = some number
      · simp [hexcuses, Attempt.verdict, hnumber, hharmless]
      · cases hother : (op.attemptOf c).harmless? with
        | none => simp [hexcuses, Attempt.verdict, hnumber, hother]
        | some other =>
          have hne : number ≠ other := fun heq => hharmless (by rw [hother, heq])
          have hbeq : (number == other) = false := by simp [hne]
          simp [hexcuses, Attempt.verdict, hnumber, hother, List.lookup_cons, List.lookup_nil, hbeq,
            Ne.symm hne]

theorem treats_of_settles {calls : Request → Option Attempt} {q : Program op.Answer} {e : Fault}
    (hcalls : ∀ r a, calls r = some a → a = op.attempt r ∧
      ∀ c, r.command? = some c → op.Excuses .proceed c)
    (hsettles : q.Settles calls op.subject e) : op.Treats q e := by
  intro r hr
  obtain ⟨a, ha, hsettled⟩ := hsettles r hr
  obtain ⟨rfl, hexcuses⟩ := hcalls r a ha
  rw [remedy?_of_excuses hexcuses]
  cases hverdict : (op.attempt r).verdict op.subject e with
  | some reported =>
    simp only [hverdict] at hsettled
    simpa using hsettled
  | none =>
    simp only [hverdict] at hsettled
    simp only [if_true]
    exact .inr hsettled

end Attempts

end Operation

namespace Store

open Program

variable {attempt : Request → Option Attempt} {subject : String}

theorem handlesAs_ensureRegistry {registry : String}
    (h : attempt (.execute (.createRegistry registry)) = some .other) :
    (ensureRegistry registry).HandlesAs attempt subject :=
  .bind (.report _) fun _ => .perform h

theorem handlesAs_forM {α : Type} {items : List α} {f : α → Program Unit}
    (h : ∀ item ∈ items, (f item).HandlesAs attempt subject) :
    (items.forM f).HandlesAs attempt subject := by
  induction items with
  | nil => exact .done _
  | cons item rest ih =>
    refine .bind (h item List.mem_cons_self) fun _ => ?_
    exact ih fun other hother => h other (List.mem_cons_of_mem _ hother)

/-- The commands that create a class. -/
def IsDefinition : Command → Prop
  | .createRegistry _ | .createTable _ _ | .createJoinTable _ => True
  | _ => False

theorem handlesAs_createTable {registry className : String} {schema : ClassSchema}
    (h : ∀ c, IsDefinition c → attempt (.execute c) = some .other) :
    (createTable registry className schema).HandlesAs attempt subject := by
  refine .bind (.report _) fun _ => .bind (.done _) fun _ => ?_
  refine .bind (handlesAs_ensureRegistry (h _ trivial)) fun _ => handlesAs_forM ?_
  intro c hc
  refine .perform (h c ?_)
  rcases List.mem_cons.mp hc with rfl | hc
  · trivial
  · obtain ⟨field, -, rfl⟩ := List.mem_map.mp hc
    trivial

theorem handlesAs_find {className : String} {schema : ClassSchema} {query : Object}
    {options : FindOptions}
    (h : ∀ selection, attempt (.query (.select className selection)) = some .read) :
    (find className schema query options).HandlesAs attempt className := by
  refine .bind (.report _) fun _ => .lift fun q _ => .lift fun c hc => ?_
  obtain ⟨selection, -, rfl⟩ := Query.selectCommand_eq_ok.1 hc
  exact .queryAs (h selection) (fun _ => .done _) rfl

theorem handlesAs_updateObjects {className : String} {schema : ClassSchema}
    {query update : Object}
    (hupdate : ∀ changes filter,
      attempt (.execute (.update className changes filter)) = some .updateObjects)
    (hselect : ∀ selection, attempt (.query (.select className selection)) = some .read) :
    (updateObjects className schema query update).HandlesAs attempt className := by
  refine .bind (.report _) fun _ => .bind (.done _) fun u => ?_
  by_cases hidle : u.isIdle = true
  · simp only [hidle, if_true]
    exact handlesAs_find hselect
  · simp only [hidle, if_false, Bool.false_eq_true]
    refine .lift fun q _ => .lift fun c hc => ?_
    obtain ⟨changes, filter, -, -, rfl⟩ := Query.updateCommand_eq_ok.1 hc
    refine .executeAs (hupdate changes filter) (fun affected => ?_) rfl
    cases affected.getD 0 with
    | zero => exact .done _
    | succ n => exact handlesAs_find hselect

theorem handlesAs_findOneAndUpdate {className : String} {schema : ClassSchema}
    {query update : Object}
    (hupdate : ∀ changes filter,
      attempt (.execute (.update className changes filter)) = some .updateObjects)
    (hselect : ∀ selection, attempt (.query (.select className selection)) = some .read) :
    (findOneAndUpdate className schema query update).HandlesAs attempt className :=
  .bind (.report _) fun _ => .bind (handlesAs_updateObjects hupdate hselect) fun _ => .done _

end Store

namespace Operation

open Program

/-- All calls of an operation, as attempts. -/
def calls (op : Operation) (r : Request) : Option Attempt := some (op.attempt r)

/-- An operation whose excuses are those of its attempts. -/
theorem handles_of_handlesAs {op : Operation} (hexcuses : ∀ c, op.Excuses .proceed c)
    (h : op.program.HandlesAs op.calls op.subject) : op.program.Handles op.Treats := by
  refine h.mono fun _ _ _ hsettles => treats_of_settles (fun r a ha => ⟨?_, ?_⟩) hsettles
  · exact (Option.some.inj ha).symm
  · exact fun c _ => hexcuses c

/-- A call that is settled as an attempt, of which the harmless failure has this remedy. -/
theorem treats_of_settle {op : Operation} {α : Type} {remedy : Remedy} {q : Program op.Answer}
    {e : Fault} {r : Request} {f : Option α → Program op.Answer} (hrequest : q.request? = some r)
    (hexcuses : ∀ c, r.command? = some c → op.Excuses remedy c)
    (hfailing : q.failing e = settle (op.attempt r) op.subject (.error e) >>= f)
    (hnone : f none = op.afterwards remedy q.idle) : op.Treats q e := by
  intro r' hr'
  obtain rfl : r = r' := Option.some.inj (hrequest.symm.trans hr')
  rw [remedy?_of_excuses hexcuses, hfailing, settle_error_bind]
  cases hverdict : (op.attempt r).verdict op.subject e with
  | some reported => exact ⟨reported, rfl, rfl⟩
  | none => exact .inr ⟨_, by rw [← hnone]⟩

theorem handles_executeAs {op : Operation} (remedy : Remedy) {c : Command}
    {f : Option Nat → Program op.Answer} (hexcuses : op.Excuses remedy c)
    (hf : ∀ v, (f v).Handles op.Treats) (hnone : f none = op.afterwards remedy (f (some 0))) :
    (executeAs (op.attemptOf c) op.subject c >>= f).Handles op.Treats := by
  refine ⟨fun e _ => treats_of_settle rfl ?_ rfl hnone, fun answer => .settle _ _ answer hf⟩
  intro c' hc'
  obtain rfl := Option.some.inj hc'
  exact hexcuses

theorem handles_queryAs {op : Operation} (remedy : Remedy) {c : Command}
    {f : Option (List Row) → Program op.Answer} (hexcuses : op.Excuses remedy c)
    (hf : ∀ v, (f v).Handles op.Treats) (hnone : f none = op.afterwards remedy (f (some []))) :
    (queryAs (op.attemptOf c) op.subject c >>= f).Handles op.Treats := by
  refine ⟨fun e _ => treats_of_settle rfl ?_ rfl hnone, fun answer => .settle _ _ answer hf⟩
  intro c' hc'
  obtain rfl := Option.some.inj hc'
  exact hexcuses

theorem handles_deleteObjects (className : String) (schema : ClassSchema) (query : Object) :
    (deleteObjects className schema query).program.Handles
      (deleteObjects className schema query).Treats := by
  refine Handles.lift fun _ _ => Handles.lift fun q _ => Handles.lift fun c hc => ?_
  obtain ⟨filter, -, rfl⟩ := Query.deleteCommand_eq_ok.1 hc
  refine handles_executeAs .notFound rfl (fun affected => ?_) rfl
  cases affected.getD 0 <;> trivial

theorem handles_deleteAllClasses (config : Config) :
    (deleteAllClasses config).program.Handles (deleteAllClasses config).Treats := by
  refine Handles.lift fun _ _ => handles_queryAs .succeed rfl (fun rows => ?_) rfl
  cases rows with
  | none => trivial
  | some rows =>
    refine Handles.lift fun classes _ => ?_
    exact handles_executeAs .proceed rfl (fun _ => trivial) rfl

/-- What is behind a failed insertion, the result of which is taken as a value. -/
theorem failing_insert {γ : Type} (className : String) (c : Command) (object : Object) (e : Fault)
    (f : Except Fault Object → Program γ) :
    ((executeAs .createObject className c >>= fun _ => pure object).attempt >>= f).failing e =
      match Attempt.createObject.verdict className e with
      | some reported => f (.error reported)
      | none => .note (Attempt.createObject.notice className e) (f (.ok object)) := by
  have hfailing : ((executeAs .createObject className c >>= fun _ => pure object).attempt >>= f
      ).failing e = (settle .createObject className (.error e) >>= fun _ => pure object).attempt >>= f :=
    rfl
  rw [hfailing, settle_error_bind]
  cases Attempt.createObject.verdict className e with
  | some reported => rfl
  | none => rfl

/-- What an insertion reports unless a value was cut or is there already. -/
theorem verdict_createObject {className detail : String} {number : Nat} (hcut : number ≠ 1265)
    (hduplicate : number ≠ 1062) :
    Attempt.createObject.verdict className (.engine (some number) detail) =
      some (if number = 1292 then .internal (Fault.engine (some number) detail).message
        else .engine (some number) detail) := by
  by_cases hwrong : number = 1292 <;>
    simp [Attempt.verdict, Attempt.harmless?, Attempt.meaning, Fault.engineNumber,
      EngineError.dataTruncated, EngineError.duplicateEntry, EngineError.truncatedWrongValue,
      hduplicate, Ne.symm hcut, hwrong]

/-- The calls of an update, as attempts. -/
def updating : Request → Option Attempt
  | .execute (.update ..) => some .updateObjects
  | .query (.select ..) => some .read
  | _ => none

theorem updating_eq_some {r : Request} {a : Attempt} (h : updating r = some a) :
    (∃ table changes filter, r = .execute (.update table changes filter) ∧ a = .updateObjects) ∨
      ∃ table selection, r = .query (.select table selection) ∧ a = .read := by
  unfold updating at h
  split at h
  · exact .inl ⟨_, _, _, rfl, (Option.some.inj h).symm⟩
  · exact .inr ⟨_, _, rfl, (Option.some.inj h).symm⟩
  · exact absurd h (by simp)

/-- The insertion of an upsert.  A duplicate value is reported by the engine's error 1062 alone, so
that only this failure leads to the update. -/
theorem handles_upsertObject (now className : String) (schema : ClassSchema)
    (query update : Object) :
    (upsertObject now className schema query update).program.Handles
      (upsertObject now className schema query update).Treats := by
  refine Handles.lift fun _ _ => ?_
  have hinsert : (Store.createObject now className schema (Store.initialObject query update)).Handles
      fun q _ => ∃ row, q = (executeAs .createObject className (.insert className row) >>= fun _ =>
        pure (Store.initialObject query update)) :=
    Handles.lift fun _ _ => Handles.lift fun row _ =>
      ⟨fun e _ => ⟨row, rfl⟩, fun answer => .settle _ _ answer fun _ => trivial⟩
  refine hinsert.attempt_bind ?_ fun created => ?_
  · rintro q e hq he ⟨row, rfl⟩ r hr
    obtain rfl := Option.some.inj hr
    have hremedy : (upsertObject now className schema query update).remedy?
        (.execute (.insert className row)) e =
        e.engineNumber.bind fun number =>
          [(1265, Remedy.proceed), (1062, Remedy.update)].lookup number := rfl
    have hattempt : (upsertObject now className schema query update).attempt
        (.execute (.insert className row)) = .createObject := rfl
    rw [hremedy, hattempt]
    cases e with
    | engine number detail =>
      cases number with
      | none => exact ⟨_, rfl, rfl⟩
      | some number =>
        by_cases hcut : number = 1265
        · subst hcut
          exact .inr ⟨_, rfl⟩
        · by_cases hduplicate : number = 1062
          · subst hduplicate
            exact .inl rfl
          · have hlookup : [(1265, Remedy.proceed), (1062, Remedy.update)].lookup number = none := by
              have hcut' : (number == 1265) = false := by simp [hcut]
              have hduplicate' : (number == 1062) = false := by simp [hduplicate]
              simp [List.lookup_cons, List.lookup_nil, hcut', hduplicate']
            simp only [Fault.engineNumber, Option.bind_some, hlookup]
            refine ⟨_, verdict_createObject hcut hduplicate, ?_⟩
            refine (failing_insert className _ _ _ _).trans ?_
            rw [verdict_createObject hcut hduplicate]
            by_cases hwrong : number = 1292
            · simp only [hwrong, if_true]
              rfl
            · simp only [hwrong, if_false]
              rfl
    | connection detail => exact ⟨_, rfl, rfl⟩
    | database detail => exact ⟨_, rfl, rfl⟩
    | _ => exact absurd he (by simp [Fault.isFromBelow])
  · cases created with
    | ok object => trivial
    | error fault =>
      cases fault
      case duplicateValue =>
        have hupdate : (Store.findOneAndUpdate className schema query update).HandlesAs
            updating className :=
          Store.handlesAs_findOneAndUpdate (fun _ _ => rfl) fun _ => rfl
        refine Handles.bind hupdate (fun q e hq _ hsettles => ?_) fun _ => trivial
        refine treats_of_settles (fun r a ha => ?_) (hsettles.bind hq)
        rcases updating_eq_some ha with ⟨table, changes, filter, rfl, rfl⟩ | ⟨table, s, rfl, rfl⟩
        · exact ⟨rfl, fun c hc => by cases hc; rfl⟩
        · exact ⟨rfl, fun c hc => by cases hc; rfl⟩
      all_goals trivial

/-- A class is passed over for its name only, which is no failure of an engine. -/
theorem handles_bootstrap (registry : String) (schemas : List ClassSchema) :
    (bootstrap registry schemas).program.Handles (bootstrap registry schemas).Treats := by
  have hother : ∀ r, (bootstrap registry schemas).calls r = some .other := by
    intro r
    unfold calls attempt
    cases r.command? with
    | none => rfl
    | some c => cases c <;> rfl
  have hexcuses : ∀ c, (bootstrap registry schemas).Excuses .proceed c := by
    intro c
    cases c <;> rfl
  refine handles_of_handlesAs hexcuses (.bind (.report _) fun _ => Store.handlesAs_forM ?_)
  intro schema _
  have htable : (Store.createTable registry schema.className schema).HandlesAs
      (bootstrap registry schemas).calls (bootstrap registry schemas).subject :=
    Store.handlesAs_createTable fun c _ => hother _
  refine Handles.attempt_bind htable (fun q e hq he hsettles r hr => ?_) fun result => ?_
  · rw [hq.request] at hr
    obtain ⟨a, ha, hfailing⟩ := hsettles r hr
    obtain rfl : Attempt.other = a := Option.some.inj ((hother r).symm.trans ha)
    refine ⟨_, ha, ?_⟩
    rw [verdict_other] at hfailing ⊢
    simp only at hfailing ⊢
    rw [hq.failing, hfailing]
    cases e <;> first | rfl | exact absurd he (by simp [Fault.isFromBelow])
  · cases result with
    | ok v => trivial
    | error fault => cases fault <;> trivial

/-- **Every operation treats every failure as its tables say**, whatever was answered before. -/
theorem handles_program (op : Operation) : op.program.Handles op.Treats := by
  cases op with
  | createObject now className schema object =>
    refine handles_of_handlesAs (fun c => by cases c <;> rfl) ?_
    refine .bind (.report _) fun _ => .bind (.done _) fun row => ?_
    exact .executeAs rfl (fun _ => .done _) rfl
  | find className schema query options =>
    exact handles_of_handlesAs (fun c => by cases c <;> rfl) (Store.handlesAs_find fun _ => rfl)
  | count className schema query =>
    refine handles_of_handlesAs (fun c => by cases c <;> rfl) ?_
    refine .bind (.report _) fun _ => .lift fun q _ => .lift fun c hc => ?_
    obtain ⟨filter, -, rfl⟩ := Query.countCommand_eq_ok.1 hc
    exact .queryAs rfl (fun _ => .done _) rfl
  | updateObjects className schema query update =>
    exact handles_of_handlesAs (fun c => by cases c <;> rfl)
      (Store.handlesAs_updateObjects (fun _ _ => rfl) fun _ => rfl)
  | findOneAndUpdate className schema query update =>
    exact handles_of_handlesAs (fun c => by cases c <;> rfl)
      (Store.handlesAs_findOneAndUpdate (fun _ _ => rfl) fun _ => rfl)
  | upsertObject now className schema query update =>
    exact handles_upsertObject now className schema query update
  | deleteObjects className schema query => exact handles_deleteObjects className schema query
  | shutdown =>
    refine handles_of_handlesAs (fun c => by cases c <;> rfl) ?_
    exact .bind (.report _) fun _ => .close rfl
  | ensureRegistry registry =>
    exact handles_of_handlesAs (fun c => by cases c <;> rfl) (Store.handlesAs_ensureRegistry rfl)
  | createTable registry className schema =>
    exact handles_of_handlesAs (fun c => by cases c <;> rfl)
      (Store.handlesAs_createTable fun c _ => by cases c <;> rfl)
  | createClass registry className schema =>
    refine handles_of_handlesAs (fun c => by cases c <;> rfl) ?_
    refine .bind (.report _) fun _ => .bind (Store.handlesAs_createTable ?_) fun _ => ?_
    · intro c hc
      cases c <;> first | rfl | exact hc.elim
    · exact .executeAs rfl (fun _ => .done _) rfl
  | addField registry className field type =>
    refine handles_of_handlesAs (fun c => by cases c <;> rfl) ?_
    refine .bind (.report _) fun _ => .bind (.done _) fun _ => ?_
    refine .executeAs ?_ (fun _ => ?_) rfl
    · unfold Command.addField
      by_cases hrelation : type.isRelation = true
      · simp only [hrelation, if_true]
        rfl
      · simp only [hrelation, if_false, Bool.false_eq_true]
        rfl
    · refine .bind (.rows rfl) fun rows => .bind (.done _) fun registered => ?_
      cases registered with
      | none => exact .perform rfl
      | some other =>
        by_cases heq : other = type
        · simp only [heq, if_true]
          exact .done _
        · simp only [heq, if_false]
          exact .done _
  | deleteFields registry className schema fields =>
    refine handles_of_handlesAs (fun c => by cases c <;> rfl) ?_
    refine .bind (.report _) fun _ => .bind (.perform rfl) fun _ => ?_
    unfold Command.dropColumns?
    dsimp only
    split
    · rename_i c hcolumns
      split at hcolumns
      · exact absurd hcolumns (by simp)
      · obtain rfl := Option.some.inj hcolumns
        exact .perform rfl
    · exact .done _
  | deleteClass registry className =>
    refine handles_of_handlesAs (fun c => by cases c <;> rfl) ?_
    refine .bind (.report _) fun _ => ?_
    by_cases hjoin : Names.isJoinTable className = true
    · simp only [hjoin, if_true]
      exact .done _
    · simp only [hjoin, if_false, Bool.false_eq_true]
      exact .bind (.perform rfl) fun _ => .done _
  | ensureUniqueness className schema fields =>
    refine handles_of_handlesAs (fun c => by cases c <;> rfl) ?_
    refine .bind (.report _) fun _ => ?_
    split
    · exact .done _
    · exact .executeAs rfl (fun _ => .done _) rfl
  | createFullTextIndex className fields =>
    refine handles_of_handlesAs (fun c => by cases c <;> rfl) ?_
    exact .bind (.report _) fun _ => .executeAs rfl (fun _ => .done _) rfl
  | allClasses registry =>
    refine handles_of_handlesAs (fun c => by cases c <;> rfl) ?_
    refine .bind (.report _) fun _ => .bind (Store.handlesAs_ensureRegistry rfl) fun _ => ?_
    exact .bind (.rows rfl) fun _ => .done _
  | getClass registry className =>
    refine handles_of_handlesAs (fun c => by cases c <;> rfl) ?_
    refine .bind (.report _) fun _ => .bind (Store.handlesAs_ensureRegistry rfl) fun _ => ?_
    exact .bind (.rows rfl) fun _ => .done _
  | setPermissions registry className permissions =>
    refine handles_of_handlesAs (fun c => by cases c <;> rfl) ?_
    refine .bind (.report _) fun _ => .bind (Store.handlesAs_ensureRegistry rfl) fun _ => ?_
    exact .perform rfl
  | deleteAllClasses config => exact handles_deleteAllClasses config
  | bootstrap registry schemas => exact handles_bootstrap registry schemas

theorem reported_eq {a : Attempt} {className : String} {e reported : Fault}
    (h : a.verdict className e = some reported) (hnumber : e.engineNumber = none) :
    reported = e := by
  unfold Attempt.verdict at h
  rw [hnumber] at h
  exact (Option.some.inj h).symm

/-- **No failure is lost.**  Let the engine notice a failure `e` of its own while an operation runs.
It does so in a call of the operation, and unless the operation has a remedy, that notice is the
last one, and the operation reports the failure: as it is, or, if the engine gave it a number, as
the attempt has it.  With a remedy the operation goes on from that call as the remedy says.  The
loss of a connection is reported as it is. -/
theorem reports_failure {ω β : Type} (op : Operation) (engine : Engine ω β)
    (s : Session (Recorded ω) (Nat × β)) (before after : List Notice) (n : Notice) (e : Fault)
    (hrun : (op.program.run engine.recorded s).1.world.notices =
      s.world.notices ++ (before ++ n :: after))
    (hn : n.failure? = some e) (he : e.isFromBelow) :
    (∃ q t r, Reaches engine.recorded op.program s q t ∧ q.request? = some r ∧
      (t.serve engine.recorded r).world.notices = s.world.notices ++ (before ++ [n]) ∧
      match op.remedy? r e with
      | none => after = [] ∧ ∃ reported, (op.program.run engine s.plain).2 = .error reported ∧
          (op.attempt r).verdict op.subject e = some reported ∧
          (e.engineNumber = none → reported = e)
      | some remedy => ∃ t', (t' = t.serve engine.recorded r ∨
            ∃ event, t' = (t.serve engine.recorded r).note event) ∧
          op.program.run engine.recorded s =
            (op.afterwards remedy q.idle).run engine.recorded t') ∧
    (e.isConnectionLoss → (op.program.run engine s.plain).2 = .error e) := by
  obtain ⟨q, t, r, hreach, hrequest, hnotices, hgoesOn⟩ :=
    exists_failing engine op.program hrun hn
  have htreats := ((handles_program op).of_reaches hreach).first hrequest he r hrequest
  have hplain : (op.program.run engine s.plain).2 = (op.program.run engine.recorded s).2 := by
    rw [run_plain]
  rw [hplain]
  cases hremedy : op.remedy? r e with
  | none =>
    simp only [hremedy] at htreats
    obtain ⟨reported, hverdict, hfailing⟩ := htreats
    rw [hfailing] at hgoesOn
    have hresult : (op.program.run engine.recorded s).2 = .error reported := by
      rw [hgoesOn]
      rfl
    refine ⟨⟨q, t, r, hreach, hrequest, hnotices, ?_⟩, fun hloss => ?_⟩
    · rw [hremedy]
      refine ⟨?_, reported, hresult, hverdict, reported_eq hverdict⟩
      -- nothing is noticed behind the call, so the record ends with it
      have hend : (t.serve engine.recorded r).world.notices =
          s.world.notices ++ (before ++ n :: after) := by
        rw [← hrun, hgoesOn]
        rfl
      have hlast := List.append_cancel_left (List.append_cancel_left (hnotices.symm.trans hend))
      exact ((List.cons.inj hlast).2).symm
    · rw [hresult, reported_eq hverdict]
      cases e with
      | connection detail => rfl
      | _ => exact absurd hloss (by simp [Fault.isConnectionLoss])
  | some remedy =>
    simp only [hremedy] at htreats
    refine ⟨⟨q, t, r, hreach, hrequest, hnotices, ?_⟩, fun hloss => ?_⟩
    · rw [hremedy]
      rcases htreats with hfailing | ⟨event, hfailing⟩
      · exact ⟨_, .inl rfl, by rw [hgoesOn, hfailing]⟩
      · exact ⟨_, .inr ⟨event, rfl⟩, by rw [hgoesOn, hfailing]; rfl⟩
    · -- what has a remedy has a number
      cases e with
      | connection detail =>
        unfold remedy? at hremedy
        cases r.command? <;> simp [Fault.engineNumber] at hremedy
      | _ => exact absurd hloss (by simp [Fault.isConnectionLoss])

/-- A session over an open connection whose transport is lost by the first text. -/
def brokenLine : Session (Recorded Script) (Nat × Line) :=
  Session.freshRecorded "mysql://localhost/app"
    ⟨[⟨some (.connection "broken pipe"), 0, [], false⟩], [], none⟩ (some .sound)

/-- The text that drops a class is not sent again after the transport was lost, and the loss is
reported. -/
theorem reports_failure_deleteClass :
    ((deleteClass "_SCHEMA" "Widget").program.run Script.engine.recorded
        brokenLine).1.world.notices =
      brokenLine.world.notices ++ ([.asked 0 true] ++ .received 0
        "DROP TABLE IF EXISTS `Widget`;DELETE FROM `_SCHEMA` WHERE `className` = 'Widget';"
        (some (.connection "broken pipe")) :: []) ∧
      ((deleteClass "_SCHEMA" "Widget").program.run Script.engine brokenLine.plain).2 =
        .error (.connection "broken pipe") := by
  have hrun : ((deleteClass "_SCHEMA" "Widget").program.run Script.engine.recorded
        brokenLine).1.world.notices =
      brokenLine.world.notices ++ ([.asked 0 true] ++ .received 0
        "DROP TABLE IF EXISTS `Widget`;DELETE FROM `_SCHEMA` WHERE `className` = 'Widget';"
        (some (.connection "broken pipe")) :: []) := by
    decide
  refine ⟨hrun, ?_⟩
  exact (reports_failure (deleteClass "_SCHEMA" "Widget") Script.engine brokenLine _ _ _ _
    hrun rfl rfl).2 rfl

end Operation

end DocStore
