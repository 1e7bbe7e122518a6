import DocStore.Proofs.Command.Clauses
import DocStore.Proofs.Store.Effects
import DocStore.Store.Documents

/-!
# What an update gives back

Documents are read again behind the update that changes them, and with the same condition.  So over
an engine that does what its updates and selections say (`Engine.Obeys`), an update gives back the
documents that satisfy its query still (`Store.updateObjects_rereads`), and those that the update
takes out of the query are missing (`Store.not_returns_updated`).
-/

namespace DocStore

open Sql

variable {ω β : Type} {engine : Engine ω β} {content : ω → List Row}

namespace Row

/-- The first rows, as many as a row count says; all of them without one. -/
def cut (limit : Option Nat) (rows : List Row) : List Row :=
  match limit with
  | some n => rows.take n
  | none => rows

/-- The rows behind an update of those that satisfy a condition. -/
def updated (p : Row → Bool) (f : Row → Row) (rows : List Row) : List Row :=
  rows.map fun row => if p row then f row else row

/-- The updated rows that satisfy the condition still. -/
def remaining (p : Row → Bool) (f : Row → Row) (rows : List Row) : List Row :=
  ((rows.filter p).map f).filter p

/-- What satisfies the condition behind the update has satisfied it before. -/
theorem filter_updated (p : Row → Bool) (f : Row → Row) (rows : List Row) :
    (updated p f rows).filter p = remaining p f rows := by
  induction rows with
  | nil => rfl
  | cons row rest ih =>
    unfold updated remaining at ih ⊢
    cases hrow : p row with
    | true => simp [List.filter_cons, hrow, ih]
    | false => simp [hrow, ih]

theorem length_remaining_le (p : Row → Bool) (f : Row → Row) (rows : List Row) :
    (remaining p f rows).length ≤ rows.countP p := by
  calc (remaining p f rows).length
      ≤ ((rows.filter p).map f).length := List.length_filter_le _ _
    _ = rows.countP p := by rw [List.length_map, List.countP_eq_length_filter]

/-- All updated rows remain if and only if none is taken out of the condition. -/
theorem remaining_eq_map_iff {p : Row → Bool} {f : Row → Row} {rows : List Row} :
    remaining p f rows = (rows.filter p).map f ↔
      ∀ row ∈ rows, p row = true → p (f row) = true := by
  rw [remaining, List.filter_eq_self, List.forall_mem_map]
  simp

theorem remaining_eq_nil_iff {p : Row → Bool} {f : Row → Row} {rows : List Row} :
    remaining p f rows = [] ↔ ∀ row ∈ rows, p row = true → p (f row) = false := by
  rw [remaining, List.filter_eq_nil_iff, List.forall_mem_map]
  simp

end Row

/-- An engine that does what updates and selections of a table say.  `holds` says of which rows a
condition holds, and `change` what an update makes of a row.  An update changes the rows that
satisfy its condition and reports their number; a selection gives such rows in any order, as many as
its limit says. -/
structure Engine.Obeys (engine : Engine ω β) (content : ω → List Row) (table : String)
    (holds : List Token → Row → Bool) (change : String → Row → Row) : Prop where
  steady : engine.Steady content
  update : ∀ changes f text ts, (SetClause.ofChanges changes).assignments ≠ [] →
    (Command.update table changes f).render = .ok text → solidTokens? text = some ts →
      ∀ handle w,
        (engine.execute text handle w).1 = .ok ((content w).countP (holds (conditionOf ts))) ∧
        content (engine.execute text handle w).2.2 =
          Row.updated (holds (conditionOf ts)) (change text) (content w)
  select : ∀ f limit text ts, (Command.select table (.plain f limit)).render = .ok text →
    solidTokens? text = some ts →
      ∀ handle w, ∃ found, found.Perm ((content w).filter (holds (conditionOf ts))) ∧
        (engine.query text handle w).1 = .ok (Row.cut (limitOf ts) found) ∧
        content (engine.query text handle w).2.2 = content w

namespace Query

variable {schema : ClassSchema} {q : Query} {f : Filter}

/-- Without wishes but a limit, a query selects the rows of its filter. -/
theorem select_plain (h : q.filter schema = .ok f) (limit : Option Nat) :
    q.select schema { FindOptions.none with limit } = .ok (.plain f limit) := by
  unfold select
  rw [h]
  cases hsorts : f.whereClause.sorts.isEmpty with
  | false => simp [bind, Except.bind, hsorts]; rfl
  | true => simp [bind, Except.bind, hsorts]; rfl

end Query

/-- An update that only changes relations changes nothing else. -/
theorem Update.changes_of_isIdle {u : Update} (h : u.isIdle = true) (schema : ClassSchema) :
    u.changes schema = .ok [] := by
  unfold changes
  induction u with
  | nil => rfl
  | cons e rest ih =>
    obtain ⟨column, operator⟩ := e
    rw [isIdle, List.all_cons, Bool.and_eq_true] at h
    cases operator with
    | relation => exact ih h.2
    | _ => cases h.1

namespace Store

open Program (Meets)

variable {className : String} {schema : ClassSchema} {query update : Object} {u : Update}
  {q : Query} {changes : List Change} {filter : Filter} {holds : List Token → Row → Bool}
  {change : String → Row → Row}

/-- What a query finds, as many as a limit says. -/
theorem meets_find (h : engine.Obeys content className holds change)
    (hq : Query.ofEntries query = .ok q) (hfilter : q.filter schema = .ok filter) (n : Nat)
    (rows : List Row) :
    Meets engine content (find className schema query { FindOptions.none with limit := some n })
      rows fun result rows' => rows' = rows ∧ ∃ found : List Row,
        found.Perm (rows.filter (holds filter.conditionTokens)) ∧
          result = .ok ((found.take n).map (Row.decode schema)) := by
  let c : Command := .select className (.plain filter (some n))
  obtain ⟨text, htext, htokens⟩ := Command.solidTokens?_render (c := c) trivial
  unfold find
  refine .report ?_
  refine .lift hq ?_
  refine .lift (Query.selectCommand_eq_ok.2 ⟨_, Query.select_plain hfilter (some n), rfl⟩) ?_
  refine .bind (Q := fun result rows' => rows' = rows ∧ ∃ found : List Row,
    found.Perm (rows.filter (holds filter.conditionTokens)) ∧ result = .ok (some (found.take n)))
    (.queryAs h.steady htext fun handle w hw => ?_) ?_ ?_
  · obtain ⟨found, hfound, hanswer, hcontent⟩ :=
      h.select filter (some n) text _ htext htokens handle w
    rw [Command.conditionOf_select, hw] at hfound
    rw [Command.limitOf_select] at hanswer
    exact ⟨hcontent.trans hw, found, hfound, by rw [hanswer]; rfl⟩
  · rintro answer rows' ⟨rfl, found, hfound, hanswer⟩
    obtain rfl := Except.ok.inj hanswer
    exact .done ⟨rfl, found, hfound, rfl⟩
  · rintro fault rows' ⟨-, found, -, hanswer⟩
    cases hanswer

/-- **What an update gives back** are the documents of the updated rows that satisfy its condition
still. -/
theorem meets_updateObjects (h : engine.Obeys content className holds change)
    (hu : Update.ofObject schema update = .ok u) (hq : Query.ofEntries query = .ok q)
    (hchanges : u.changes schema = .ok changes) (hfilter : q.filter schema = .ok filter)
    (hassigns : (SetClause.ofChanges changes).assignments ≠ []) {text : String}
    (htext : (Command.update className changes filter).render = .ok text)
    (htokens : solidTokens? text = some (Command.update className changes filter).tokens)
    (rows : List Row) :
    Meets engine content (updateObjects className schema query update) rows
      fun result rows' =>
        rows' = Row.updated (holds filter.conditionTokens) (change text) rows ∧
        ∃ found : List Row,
          found.Perm (Row.remaining (holds filter.conditionTokens) (change text) rows) ∧
            result = .ok (found.map (Row.decode schema)) := by
  let p := holds filter.conditionTokens
  have hidle : u.isIdle = false := by
    cases hidle : u.isIdle with
    | false => rfl
    | true =>
      rw [Update.changes_of_isIdle hidle schema] at hchanges
      obtain rfl := Except.ok.inj hchanges
      exact absurd rfl hassigns
  unfold updateObjects
  refine .report ?_
  refine .lift hu ?_
  rw [hidle, if_neg Bool.false_ne_true]
  refine .lift hq ?_
  refine .lift (Query.updateCommand_eq_ok.2 ⟨_, _, hchanges, hfilter, rfl⟩) ?_
  refine .bind (Q := fun result rows' => rows' = Row.updated p (change text) rows ∧
    result = .ok (some (rows.countP p))) (.executeAs h.steady htext fun handle w hw => ?_) ?_ ?_
  · obtain ⟨hanswer, hcontent⟩ := h.update changes filter text _ hassigns htext htokens handle w
    rw [Command.conditionOf_update, hw] at hanswer hcontent
    exact ⟨hcontent, by rw [hanswer]; rfl⟩
  · rintro affected rows' ⟨rfl, haffected⟩
    obtain rfl := Except.ok.inj haffected
    cases hcount : rows.countP p with
    | zero =>
      have hnone : Row.remaining p (change text) rows = [] := by
        have hlength := Row.length_remaining_le p (change text) rows
        exact List.eq_nil_of_length_eq_zero (by omega)
      exact .done ⟨rfl, [], by rw [hnone], rfl⟩
    | succ n =>
      -- the limit leaves room for all that the selection finds
      refine .mono (meets_find h hq hfilter (n + 1) _) ?_
      rintro result rows' ⟨rfl, found, hfound, rfl⟩
      rw [Row.filter_updated] at hfound
      have hroom : found.length ≤ n + 1 := by
        calc found.length
            = (Row.remaining p (change text) rows).length := hfound.length_eq
          _ ≤ rows.countP p := Row.length_remaining_le p (change text) rows
          _ = n + 1 := hcount
      rw [List.take_of_length_le hroom]
      exact ⟨rfl, found, hfound, rfl⟩
  · rintro fault rows' ⟨-, haffected⟩
    cases haffected

/-- **An update gives back what its query finds of the updated documents.**  Over an engine that
does what updates and selections say, an update changes the rows that satisfy the condition of its
text and gives back, in some order, those of them that satisfy it still, as they are now; the limit
cuts none of them.  So all are given back if and only if the update takes none out of the query, and
updating one gives no document if and only if it takes out all. -/
theorem updateObjects_rereads (h : engine.Obeys content className holds change)
    (hu : Update.ofObject schema update = .ok u) (hq : Query.ofEntries query = .ok q)
    (hchanges : u.changes schema = .ok changes) (hfilter : q.filter schema = .ok filter)
    (hassigns : (SetClause.ofChanges changes).assignments ≠ []) :
    ∃ text ts, (Command.update className changes filter).render = .ok text ∧
      solidTokens? text = some ts ∧
      ∀ s : Session ω β,
        let p := holds (conditionOf ts)
        let rows := content s.world
        let all := (updateObjects className schema query update).run engine s
        let first := (findOneAndUpdate className schema query update).run engine s
        content all.1.world = Row.updated p (change text) rows ∧
        (∃ found : List Row, found.Perm (Row.remaining p (change text) rows) ∧
          all.2 = .ok (found.map (Row.decode schema))) ∧
        (∃ found : List Row, found.Perm (Row.remaining p (change text) rows) ∧
          first.2 = .ok (found.map (Row.decode schema)).head?) ∧
        (Row.remaining p (change text) rows = (rows.filter p).map (change text) ↔
          ∀ row ∈ rows, p row = true → p (change text row) = true) ∧
        (first.2 = .ok none ↔ ∀ row ∈ rows, p row = true → p (change text row) = false) := by
  let c : Command := .update className changes filter
  obtain ⟨text, htext, htokens⟩ := Command.solidTokens?_render (c := c) trivial
  refine ⟨text, c.tokens, htext, htokens, fun s => ?_⟩
  rw [Command.conditionOf_update]
  intro p rows all first
  have hmeets := meets_updateObjects h hu hq hchanges hfilter hassigns htext htokens rows
  obtain ⟨hcontent, hall⟩ := hmeets s rfl
  have hfirst : Meets engine content (findOneAndUpdate className schema query update) rows
      fun result _ => ∃ found : List Row, found.Perm (Row.remaining p (change text) rows) ∧
        result = .ok (found.map (Row.decode schema)).head? := by
    refine .report (.bind hmeets ?_ ?_)
    · rintro documents rows' ⟨-, found, hfound, hdocuments⟩
      obtain rfl := Except.ok.inj hdocuments
      exact .done ⟨found, hfound, rfl⟩
    · rintro fault rows' ⟨-, found, -, hdocuments⟩
      cases hdocuments
  refine ⟨hcontent, hall, hfirst s rfl, Row.remaining_eq_map_iff, ?_⟩
  obtain ⟨found, hfound, hresult⟩ : ∃ found : List Row,
    found.Perm (Row.remaining p (change text) rows) ∧ first.2 = _ := hfirst s rfl
  rw [hresult, ← Row.remaining_eq_nil_iff]
  cases found with
  | nil => simp [hfound.symm.eq_nil]
  | cons row rest =>
    have hne : Row.remaining p (change text) rows ≠ [] := by
      intro hnil
      rw [hnil] at hfound
      cases hfound.eq_nil
    simp [hne]

/-! ### Rows in a list -/

/-- The engine that keeps its rows in a list. -/
def rowEngine (holds : List Token → Row → Bool) (change : String → Row → Row) :
    Engine (List Row) Unit where
  connect _ rows := (.ok (), rows)
  execute text _ rows :=
    match solidTokens? text with
    | some ts =>
      (.ok (rows.countP (holds (conditionOf ts))), (),
        Row.updated (holds (conditionOf ts)) (change text) rows)
    | none => (.error (.internal "not SQL"), (), rows)
  query text _ rows :=
    match solidTokens? text with
    | some ts => (.ok (Row.cut (limitOf ts) (rows.filter (holds (conditionOf ts)))), (), rows)
    | none => (.error (.internal "not SQL"), (), rows)
  isConnected _ rows := (true, rows)
  close _ rows := (.ok (), rows)

theorem obeys_rowEngine (table : String) (holds : List Token → Row → Bool)
    (change : String → Row → Row) : (rowEngine holds change).Obeys id table holds change where
  steady := ⟨fun _ rows => ⟨(), rows, rfl, rfl⟩, fun _ _ => rfl⟩
  update changes f text ts _ _ htokens _ rows := by
    simp [rowEngine, htokens]
  select f limit text ts _ htokens _ rows :=
    ⟨rows.filter (holds (conditionOf ts)), .refl _, by simp [rowEngine, htokens], by
      simp [rowEngine, htokens]⟩

/-- Equality of a column with a literal; other conditions always hold. -/
def equality (condition : List Token) (row : Row) : Bool :=
  match condition with
  | [⟨.name column, _⟩, ⟨.mark, "="⟩, value] => (row.lookup column).any (literal · == value.source)
  | _ => true

/-- What the first assignment of an update makes of a row, if its value is a number. -/
def firstAssignment (text : String) (row : Row) : Row :=
  match solidTokens? text with
  | some (_ :: _ :: _ :: ⟨.name column, _⟩ :: _ :: ⟨.number, source⟩ :: _) =>
    row.insert column ((Json.read? source).getD .null)
  | _ => row

/-- Two widgets with counts. -/
def counted : Session (List Row) Unit :=
  .opened "" () [[("objectId", .str "a"), ("count", .ofInt 1)],
    [("objectId", .str "b"), ("count", .ofInt 5)]]

/-- Widgets have a count. -/
def countedWidget : ClassSchema := (ClassSchema.withDefaultFields "Widget").field "count" .number

/-- The update that lets the widget `a` count two. -/
def countUpdate : String := "UPDATE `Widget` SET `count` = 2 WHERE `objectId` = 'a'"

/-- The widget that counts two satisfies the query for its identifier still, and is given back. -/
theorem updateObjects_rereads_counted :
    (rowEngine equality firstAssignment).Obeys id "Widget" equality firstAssignment ∧
      ((updateObjects "Widget" countedWidget [("objectId", .str "a")] [("count", .ofInt 2)]).run
        (rowEngine equality firstAssignment) counted).2 =
          .ok [[("objectId", .str "a"), ("count", .ofInt 2)]] := by
  have hobeys := obeys_rowEngine "Widget" equality firstAssignment
  refine ⟨hobeys, ?_⟩
  obtain ⟨text, ts, htext, htokens, hrun⟩ := updateObjects_rereads hobeys
    (show Update.ofObject countedWidget [("count", .ofInt 2)] = .ok _ from rfl)
    (show Query.ofEntries [("objectId", .str "a")] = .ok _ from rfl)
    (show Update.changes countedWidget _ = .ok _ from rfl)
    (show Query.filter countedWidget _ = .ok _ from rfl) (by decide)
  obtain rfl : countUpdate = text := Except.ok.inj (Eq.trans (by rfl) htext)
  obtain ⟨-, ⟨found, hfound, hresult⟩, -⟩ := hrun counted
  -- the condition of the update holds of the first row, before and behind it
  have hcondition : (solidTokens? countUpdate).map conditionOf =
      some [⟨.name "objectId", "`objectId`"⟩, ⟨.mark, "="⟩, ⟨.string "a", "'a'"⟩] := by
    decide +kernel
  rw [htokens, Option.map_some, Option.some.injEq] at hcondition
  have hremaining : Row.remaining
      (equality [⟨.name "objectId", "`objectId`"⟩, ⟨.mark, "="⟩, ⟨.string "a", "'a'"⟩])
      (firstAssignment countUpdate) counted.world =
        [[("objectId", .str "a"), ("count", .ofInt 2)]] := by
    decide +kernel
  rw [hcondition, id_eq, hremaining, List.perm_singleton] at hfound
  rw [hresult, hfound]
  rfl

/-- **Updated documents may be missing.**  The widget that counts one counts two behind the update,
and is found no more. -/
theorem not_returns_updated :
    (rowEngine equality firstAssignment).Obeys id "Widget" equality firstAssignment ∧
      let all := (updateObjects "Widget" countedWidget [("count", .ofInt 1)]
        [("count", .ofInt 2)]).run (rowEngine equality firstAssignment) counted
      let first := (findOneAndUpdate "Widget" countedWidget [("count", .ofInt 1)]
        [("count", .ofInt 2)]).run (rowEngine equality firstAssignment) counted
      all.2 = .ok [] ∧ first.2 = .ok none ∧
        all.1.world = [[("objectId", .str "a"), ("count", .ofInt 2)],
          [("objectId", .str "b"), ("count", .ofInt 5)]] := by
  refine ⟨obeys_rowEngine _ _ _, ?_, ?_, ?_⟩
  · decide +kernel
  · decide +kernel
  · decide +kernel

end Store

end DocStore
