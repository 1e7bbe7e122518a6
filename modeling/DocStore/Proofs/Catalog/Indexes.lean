import DocStore.Proofs.Command.Indexes
import DocStore.Proofs.Dict
import DocStore.Proofs.Store.Effects
import DocStore.Store.Classes

/-!
# Indexes of tables

The engine refuses an index whose name is taken, and the store counts that as success.  What it
knows of the index that is there is the name alone.  So after a course of requests over an engine
that keeps indexes (`Engine.KeepsIndexes`) a request that succeeded has an index of its kind whose
fields have the same parts between underscores, and if no field has an underscore, an index over its
own fields (`IndexRequest.indexed_of_ok`).

The index of `a_b` has the name of that of `a` and `b`, so one of them keeps the other from being
made (`IndexRequest.not_indexed_of_ok`).
-/

namespace DocStore

open Sql

/-- The indexes of tables by name. -/
abbrev Indexes := Dict (Dict Index)

namespace Indexes

/-- The index of a table under a name. -/
def find? (x : Indexes) (table name : String) : Option Index :=
  (x.get? table).bind fun indexes => indexes.get? name

/-- The indexes with one more. -/
def add (x : Indexes) (a : IndexAddition) : Indexes :=
  x.alter a.table fun indexes => (indexes.getD .empty).insert a.name a.index

theorem find?_add (x : Indexes) (a : IndexAddition) (table name : String) :
    (x.add a).find? table name =
      if table = a.table ∧ name = a.name then some a.index else x.find? table name := by
  unfold find? add
  by_cases htable : table = a.table
  · subst htable
    rw [Dict.get?_alter_self, Option.bind_some, Dict.get?_insert]
    cases x.get? a.table with
    | none => simp [Dict.get?_empty]
    | some indexes => simp
  · rw [Dict.get?_alter_of_ne _ htable, if_neg (htable ∘ And.left)]

end Indexes

/-! ### Requests -/

/-- A request for an index over fields of a class. -/
structure IndexRequest where
  className : String
  /-- The schema, which a unique index asks for its fields. -/
  schema : ClassSchema
  index : Index

namespace IndexRequest

variable (r : IndexRequest)

/-- The index that is added. -/
def addition : IndexAddition := r.index.additionTo r.className

/-- The command that adds the index. -/
def command : Command := r.index.command r.className

/-- What the engine is asked for. -/
def attempt : Attempt :=
  match r.index.kind with
  | .unique => .ensureUniqueness
  | .fullText => .fullTextIndex

/-- A name that is taken does no harm. -/
theorem harmless?_attempt : r.attempt.harmless? = some EngineError.duplicateKeyName := by
  unfold attempt
  cases r.index.kind <;> rfl

/-- What the store does for the request. -/
def program : Program Unit :=
  match r.index.kind with
  | .unique => Store.ensureUniqueness r.className r.schema r.index.fields
  | .fullText => Store.createFullTextIndex r.className r.index.fields

end IndexRequest

/-! ### Courses of requests -/

variable {ω β : Type} {engine : Engine ω β} {content : ω → Indexes}

/-- The engine adds an index under a name that is free, refuses one whose name is taken, and may
refuse an index for other reasons.  What it refuses leaves the indexes alone. -/
structure Engine.KeepsIndexes (engine : Engine ω β) (content : ω → Indexes) : Prop extends
    engine.Steady content where
  added : ∀ {text : String} {a : IndexAddition}, IndexAddition.ofText? text = some a →
    ∀ (handle : β) (w : ω) (n : Nat), (engine.execute text handle w).1 = .ok n →
      (content w).find? a.table a.name = none ∧
        content (engine.execute text handle w).2.2 = (content w).add a
  refused : ∀ {text : String} {a : IndexAddition}, IndexAddition.ofText? text = some a →
    ∀ (handle : β) (w : ω) (e : Fault), (engine.execute text handle w).1 = .error e →
      content (engine.execute text handle w).2.2 = content w ∧
        (e.engineNumber = some EngineError.duplicateKeyName →
          (content w).find? a.table a.name ≠ none)

namespace Indexes

/-- Every index has the name that the store gives to it, and satisfies a condition. -/
def Holds (P : Index → Prop) (x : Indexes) : Prop :=
  ∀ table name i, x.find? table name = some i → name = i.name ∧ P i

/-- All indexes are kept under their names. -/
def Grows (x x' : Indexes) : Prop :=
  ∀ table name i, x.find? table name = some i → x'.find? table name = some i

variable {P : Index → Prop} {x x' x'' : Indexes} {a : IndexAddition}

theorem Grows.refl (x : Indexes) : x.Grows x := fun _ _ _ h => h

theorem Grows.trans (h : x.Grows x') (h' : x'.Grows x'') : x.Grows x'' :=
  fun _ _ _ hi => h' _ _ _ (h _ _ _ hi)

theorem Holds.add (h : x.Holds P) (hname : a.name = a.index.name) (ha : P a.index) :
    (x.add a).Holds P := by
  intro table name i hi
  rw [find?_add] at hi
  split at hi
  · next hnew =>
    obtain rfl := Option.some.inj hi
    exact ⟨hnew.2.trans hname, ha⟩
  · exact h table name i hi

theorem grows_add (h : x.find? a.table a.name = none) : x.Grows (x.add a) := by
  intro table name i hi
  rw [find?_add]
  split
  · next hnew =>
    rw [hnew.1, hnew.2, h] at hi
    cases hi
  · exact hi

end Indexes

namespace IndexRequest

open Indexes Program

variable {P : Index → Prop} {x : Indexes}

/-- What a request leaves: the old indexes, and if it succeeds one under the name of its own. -/
structure Serves (P : Index → Prop) (r : IndexRequest) (x : Indexes) (ok : Prop) (x' : Indexes) :
    Prop where
  holds : x'.Holds P
  grows : x.Grows x'
  found : ok → ∃ i, x'.find? r.className r.index.name = some i

/-- The engine's answer to an addition.  A name that is taken has its index already. -/
theorem meets_executeAs (h : engine.KeepsIndexes content) (r : IndexRequest) (hx : x.Holds P)
    (hr : P r.index) :
    Meets engine content (executeAs r.attempt r.className r.command) x fun answer x' =>
      r.Serves P x (∃ n, answer = .ok n) x' := by
  obtain ⟨text, htext, ha⟩ := r.index.exists_render r.className
  refine Meets.executeAs h.toSteady htext fun handle w hw => ?_
  subst hw
  cases hanswer : (engine.execute text handle w).1 with
  | ok n =>
    obtain ⟨hfree, hcontent⟩ := h.added ha handle w n hanswer
    rw [hcontent]
    have hnew := find?_add (content w) r.addition r.className r.index.name
    exact ⟨hx.add rfl hr, grows_add hfree, fun _ => ⟨r.index, hnew.trans (if_pos ⟨rfl, rfl⟩)⟩⟩
  | error e =>
    obtain ⟨hcontent, htaken⟩ := h.refused ha handle w e hanswer
    rw [hcontent]
    refine ⟨hx, .refl _, ?_⟩
    rintro ⟨n, hn⟩
    -- only a taken name does no harm
    have hharmless := r.harmless?_attempt
    have hnumber : e.engineNumber = some EngineError.duplicateKeyName := by
      cases hnumber : e.engineNumber with
      | none => simp [Attempt.resolve, Attempt.verdict, hnumber] at hn
      | some number =>
        by_cases hsame : EngineError.duplicateKeyName = number
        · rw [hsame]
        · simp [Attempt.resolve, Attempt.verdict, hnumber, hharmless, hsame] at hn
    exact Option.ne_none_iff_exists'.1 (htaken hnumber)

/-- **A request that succeeds has an index under its name.** -/
theorem meets_program (h : engine.KeepsIndexes content) (r : IndexRequest) (hx : x.Holds P)
    (hr : P r.index) :
    Meets engine content r.program x fun result x' => r.Serves P x (result = .ok ()) x' := by
  have hexecute := meets_executeAs h r hx hr
  have hbehind : Meets engine content
      (executeAs r.attempt r.className r.command >>= fun _ => .done (.ok ())) x fun result x' =>
        r.Serves P x (result = .ok ()) x' := by
    refine hexecute.bind (fun n x' hserves => .done ?_) fun fault x' hserves => ?_
    · exact ⟨hserves.holds, hserves.grows, fun _ => hserves.found ⟨n, rfl⟩⟩
    · exact ⟨hserves.holds, hserves.grows, nofun⟩
  obtain ⟨className, schema, kind, fields⟩ := r
  cases kind with
  | fullText => exact Meets.report hbehind
  | unique =>
    refine Meets.report ?_
    split
    · exact .done ⟨hx, .refl _, nofun⟩
    · exact hbehind

/-- The session behind a course of requests, whatever comes of them. -/
def serve (engine : Engine ω β) (s : Session ω β) (requests : List IndexRequest) : Session ω β :=
  requests.foldl (fun s r => (r.program.run engine s).1) s

/-- A course of requests keeps the indexes. -/
theorem serve_preserves (h : engine.KeepsIndexes content) {requests : List IndexRequest}
    (hrequests : ∀ r ∈ requests, P r.index) {s : Session ω β} (hs : (content s.world).Holds P) :
    (content (serve engine s requests).world).Holds P ∧
      (content s.world).Grows (content (serve engine s requests).world) := by
  induction requests generalizing s with
  | nil => exact ⟨hs, .refl _⟩
  | cons r rest ih =>
    obtain ⟨hr, hrest⟩ := List.forall_mem_cons.1 hrequests
    have hserves := meets_program h r hs hr s rfl
    obtain ⟨hholds, hgrows⟩ := ih hrest hserves.holds
    exact ⟨hholds, hserves.grows.trans hgrows⟩

/-- Behind a course of requests, one that succeeded has an index under its name. -/
theorem exists_index (h : engine.KeepsIndexes content) {calls more : List IndexRequest}
    {r : IndexRequest} (hrequests : ∀ q ∈ calls ++ r :: more, P q.index) {s : Session ω β}
    (hs : (content s.world).Holds P)
    (hok : (r.program.run engine (serve engine s calls)).2 = .ok ()) :
    ∃ i, (content (serve engine s (calls ++ r :: more)).world).find? r.className r.index.name =
      some i ∧ i.name = r.index.name ∧ P i := by
  rw [List.forall_mem_append, List.forall_mem_cons] at hrequests
  obtain ⟨hcalls, hr, hmore⟩ := hrequests
  obtain ⟨hbefore, -⟩ := serve_preserves h hcalls hs
  have hserves := meets_program h r hbefore hr (serve engine s calls) rfl
  obtain ⟨hholds, hgrows⟩ := serve_preserves h hmore hserves.holds
  obtain ⟨i, hi⟩ := hserves.found hok
  have hend := hgrows _ _ _ hi
  have hserve : serve engine s (calls ++ r :: more) =
      serve engine (r.program.run engine (serve engine s calls)).1 more := by
    simp [serve, List.foldl_append]
  rw [hserve]
  obtain ⟨hname, hP⟩ := hholds _ _ _ hend
  exact ⟨i, hend, hname.symm, hP⟩

end IndexRequest

/-! ### An engine with indexes -/

namespace Indexes

/-- Carry out a text that adds an index. -/
def carryOut (text : String) (x : Indexes) : Except Fault Nat × Indexes :=
  match IndexAddition.ofText? text with
  | none => (.ok 0, x)
  | some a =>
    match x.find? a.table a.name with
    | some _ => (.error (.engine (some EngineError.duplicateKeyName) ""), x)
    | none => (.ok 0, x.add a)

/-- The engine over indexes. -/
def indexEngine : Engine Indexes Unit where
  connect _ x := (.ok (), x)
  execute text _ x := ((carryOut text x).1, (), (carryOut text x).2)
  query _ _ x := (.ok [], (), x)
  isConnected _ x := (true, x)
  close _ x := (.ok (), x)

theorem keepsIndexes_indexEngine : indexEngine.KeepsIndexes id where
  connect _ x := ⟨(), x, rfl, rfl⟩
  isConnected _ _ := rfl
  added := by
    intro text a ha handle x n hok
    simp only [indexEngine, carryOut, ha, id] at hok ⊢
    cases hfound : x.find? a.table a.name with
    | some i => simp [hfound] at hok
    | none => exact ⟨rfl, rfl⟩
  refused := by
    intro text a ha handle x e herror
    simp only [indexEngine, carryOut, ha, id] at herror ⊢
    cases hfound : x.find? a.table a.name with
    | some i => simp
    | none => simp [hfound] at herror

end Indexes

namespace IndexRequest

open Indexes Program

/-- The indexes with that of a request, unless its name is taken. -/
def served (r : IndexRequest) (x : Indexes) : Indexes :=
  match x.find? r.className r.index.name with
  | some _ => x
  | none => x.add r.addition

/-- A request for fields that are known succeeds, whether its name is taken or not. -/
theorem ends_program (r : IndexRequest)
    (h : ∀ field ∈ r.index.fields, (r.schema.storage.fieldType? field).isSome = true)
    (x : Indexes) : Ends indexEngine r.program x (.ok ()) (r.served x) := by
  obtain ⟨text, htext, ha⟩ := r.index.exists_render r.className
  have hexecute : Meets indexEngine id (executeAs r.attempt r.className r.command) x
      fun answer x' => (∃ n, answer = .ok n) ∧ x' = r.served x := by
    refine Meets.executeAs keepsIndexes_indexEngine.toSteady htext ?_
    rintro handle w rfl
    have hharmless := r.harmless?_attempt
    have hcarry : carryOut text w = (match w.find? r.className r.index.name with
        | some _ => (.error (.engine (some EngineError.duplicateKeyName) ""), w)
        | none => (.ok 0, w.add r.addition)) := by
      rw [carryOut, ha]
      rfl
    simp only [indexEngine, hcarry, id, served]
    cases w.find? r.className r.index.name with
    | some i => exact ⟨⟨none, by simp [Attempt.resolve, Attempt.verdict, Fault.engineNumber,
        hharmless]⟩, rfl⟩
    | none => exact ⟨⟨some 0, rfl⟩, rfl⟩
  have hbehind : Meets indexEngine id
      (executeAs r.attempt r.className r.command >>= fun _ => .done (.ok ())) x fun result x' =>
        result = .ok () ∧ x' = r.served x := by
    refine hexecute.bind (fun n x' hend => .done ⟨rfl, hend.2⟩) ?_
    rintro fault x' ⟨⟨n, hn⟩, -⟩
    cases hn
  refine Ends.of_meets ?_
  obtain ⟨className, schema, kind, fields⟩ := r
  cases kind with
  | fullText => exact Meets.report hbehind
  | unique =>
    refine Meets.report ?_
    split
    · next missing hmissing =>
      have hnone := List.find?_some hmissing
      rw [Option.isNone_iff_eq_none] at hnone
      have hknown := h missing (List.mem_of_find?_eq_some hmissing)
      rw [hnone] at hknown
      cases hknown
    · exact hbehind

/-- Books with a title, and with fields whose names share their parts. -/
def bookSchema : ClassSchema :=
  (((ClassSchema.named "Book").field "a" .string).field "b" .string).field "a_b" .string

/-- A request for unique values of fields of books. -/
def uniqueBooks (fields : List String) : IndexRequest := ⟨"Book", bookSchema, .unique, fields⟩

/-! ### What names tell -/

open Statement (indexName nameParts)

/-- **What the name of an index tells.**  Indexes of one kind have one name just if their sorted
fields have the same parts between underscores; if no field has an underscore, just if they have the
same fields.  So behind every course of requests over an engine that keeps indexes, a request that
succeeded has an index of its kind over fields with the same parts as its own, and over its own
fields if nobody ever used a field with an underscore. -/
theorem indexed_of_ok (kind : String) (a b : List String) :
    (indexName kind a = indexName kind b ↔ nameParts a = nameParts b) ∧
    ((∀ field ∈ a, Statement.IsUnbroken field) → (∀ field ∈ b, Statement.IsUnbroken field) →
      (indexName kind a = indexName kind b ↔ a.Perm b)) ∧
    ∀ {ω β : Type} (engine : Engine ω β) (content : ω → Indexes), engine.KeepsIndexes content →
      ∀ s : Session ω β, (content s.world).Holds (fun _ => True) →
      ∀ (calls : List IndexRequest) (r : IndexRequest) (more : List IndexRequest),
        (r.program.run engine (serve engine s calls)).2 = .ok () →
        ∃ i, (content (serve engine s (calls ++ r :: more)).world).find? r.className r.index.name =
            some i ∧
          i.kind = r.index.kind ∧ nameParts i.fields = nameParts r.index.fields ∧
          ((content s.world).Holds Index.IsUnbroken →
            (∀ q ∈ calls ++ r :: more, q.index.IsUnbroken) → i.fields.Perm r.index.fields) := by
  refine ⟨Statement.indexName_eq_iff, fun ha hb =>
    Statement.indexName_eq_iff.trans (Statement.nameParts_eq_iff_perm ha hb), ?_⟩
  intro ω β engine content h s hs calls r more hok
  -- that no field ever had an underscore is kept along the course
  let unbroken : Prop := (content s.world).Holds Index.IsUnbroken ∧
    ∀ q ∈ calls ++ r :: more, q.index.IsUnbroken
  obtain ⟨i, hi, hname, hunbroken⟩ := exists_index (P := fun i => unbroken → i.IsUnbroken) h
    (fun q hq hall => hall.2 q hq)
    (fun table name i hi => ⟨(hs table name i hi).1, fun hall => (hall.1 table name i hi).2⟩) hok
  obtain ⟨hkind, hparts⟩ := Index.name_eq_iff.1 hname
  refine ⟨i, hi, hkind, hparts, fun hworld hall => ?_⟩
  exact (Statement.nameParts_eq_iff_perm (hunbroken ⟨hworld, hall⟩)
    (hall r (List.mem_append_right _ List.mem_cons_self))).1 hparts

theorem indexed_of_ok_books :
    (indexName "unique" ["a", "b"] = indexName "unique" ["b", "a"] ∧ ["a", "b"].Perm ["b", "a"]) ∧
    let requests := [uniqueBooks ["a"], uniqueBooks ["b", "a"]]
    let s := serve indexEngine (.opened "" () .empty) [uniqueBooks ["a"]]
    ((uniqueBooks ["b", "a"]).program.run indexEngine s).2 = .ok () ∧
      ∃ i, (serve indexEngine (.opened "" () .empty) requests).world.find? "Book"
          (uniqueBooks ["b", "a"]).index.name = some i ∧
        i.kind = .unique ∧ i.fields.Perm ["b", "a"] := by
  obtain ⟨-, hname, hserved⟩ := indexed_of_ok "unique" ["a", "b"] ["b", "a"]
  have hswapped : ["a", "b"].Perm ["b", "a"] := .swap _ _ _
  have hempty : ∀ P, Indexes.Holds P .empty := fun P table name i hi => by cases hi
  refine ⟨⟨(hname ?_ ?_).2 hswapped, hswapped⟩, ?_⟩
  · simp [Statement.IsUnbroken]
  · simp [Statement.IsUnbroken]
  · intro requests s
    obtain ⟨hok, -⟩ := ends_program (uniqueBooks ["b", "a"]) (by decide +kernel) s.world s rfl
    obtain ⟨i, hi, hkind, -, hperm⟩ := hserved indexEngine id keepsIndexes_indexEngine
      (.opened "" () .empty) (hempty _) [uniqueBooks ["a"]] (uniqueBooks ["b", "a"]) [] hok
    refine ⟨hok, i, hi, hkind, hperm (hempty _) ?_⟩
    simp [uniqueBooks, Index.IsUnbroken, Statement.IsUnbroken]

/-- No index is over these fields. -/
def LacksIndex (x : Indexes) (fields : List String) : Prop :=
  ∀ table name i, x.find? table name = some i → ¬ i.fields.Perm fields

/-- **Two indexes may have one name.**  That of `a_b` has the name of that of `a` and `b`.  So
behind the request for unique values of `a_b` that for `a` and `b` together succeeds, and there is
no index over them. -/
theorem not_indexed_of_ok :
    Statement.indexName "unique" ["a_b"] = Statement.indexName "unique" ["a", "b"] ∧
      ¬ ["a_b"].Perm ["a", "b"] ∧
      let s := serve indexEngine (.opened "" () .empty) [uniqueBooks ["a_b"]]
      let behind := (uniqueBooks ["a", "b"]).program.run indexEngine s
      behind.2 = .ok () ∧ LacksIndex behind.1.world ["a", "b"] := by
  have hname : Statement.indexName "unique" ["a_b"] = Statement.indexName "unique" ["a", "b"] := by
    simp [Statement.indexName, List.mergeSort]
  have hperm : ¬ ["a_b"].Perm ["a", "b"] := by decide
  -- the index of `a_b` is the only one, and it has the name of the other
  let x : Indexes := Indexes.add .empty (uniqueBooks ["a_b"]).addition
  obtain ⟨-, hfirst⟩ := ends_program (uniqueBooks ["a_b"]) (by decide +kernel) .empty
    (.opened "" () .empty) rfl
  have hx : (serve indexEngine (.opened "" () .empty) [uniqueBooks ["a_b"]]).world = x := hfirst
  have htaken : x.find? "Book" (uniqueBooks ["a", "b"]).index.name =
      some (uniqueBooks ["a_b"]).index := by
    rw [find?_add, if_pos ⟨rfl, hname.symm⟩]
    rfl
  have hserved : (uniqueBooks ["a", "b"]).served x = x := by
    have hclass : (uniqueBooks ["a", "b"]).className = "Book" := rfl
    rw [served, hclass, htaken]
  obtain ⟨hok, hsecond⟩ := ends_program (uniqueBooks ["a", "b"]) (by decide +kernel) x _ hx
  refine ⟨hname, hperm, hok, ?_⟩
  intro table name i hi
  rw [hsecond, hserved, find?_add] at hi
  split at hi
  · obtain rfl := Option.some.inj hi
    exact hperm
  · cases hi

end IndexRequest

end DocStore
