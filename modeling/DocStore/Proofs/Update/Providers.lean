import DocStore.Proofs.Update.Assignments
import DocStore.Proofs.Update.Slots

/-!
# Authentication data

The entries of an update that are about providers make one operator of the column `authData`
(`Update.eq_of_listsProviders`), and its assignment sets them one after the other, the first
innermost.  So the last entry of a provider counts, and what is not mentioned stays
(`Update.authData_after`).

A provider that is to be removed gets the word `NULL`, which becomes a JSON `null` inside the
document: its member stays there.  And a column without a document stays without one if there is no
entry (`Update.not_removed_provider`).
-/

namespace DocStore

open Sql

open Term (Means MeansAll)

/-! ### Providers one after the other -/

/-- The value of a column in which one provider is set; JSON `null` stands for a missing value. -/
def Sql.Value.setProvider (stored : Value) (e : String × Option Json) : Value :=
  .json (Json.setAt (e.2.getD .null) [e.1] stored.document)

namespace Step

variable {plus : Number → Number → Number} {env : String → Option Value} {g : Nat → Token}
  {n : Nat} {c : Template} {stored : Value}

/-- The first provider is set innermost. -/
theorem providersText_cons (c : Template) (n : Nat) (e : String × Option Json)
    (rest : List (String × Option Json)) :
    providersText c n (e :: rest) =
      providersText (providersText c n [e]) (n + (providerParams e).length) rest := by
  obtain ⟨name, _ | v⟩ := e <;> rfl

/-- A pair is set in the document of a column. -/
theorem means_setPair (hcolumn : Means plus env (c.solidTokens g) stored)
    (hstored : stored = .null ∨ ∃ d, stored = .json d) {ts : List Token} {path : List String}
    {v : Value} {w : Json} (hpair : MeansAll plus env ts [pathValue path, v]) (hw : v.toJson = w) :
    Means plus env (⟨.word, "JSON_SET"⟩ :: ⟨.mark, "("⟩ ::
      ((orObject c).solidTokens g ++ ⟨.mark, ","⟩ :: ts) ++ [⟨.mark, ")"⟩])
      (.json (Json.setAt w path stored.document)) := by
  have hvalue : Value.call? "JSON_SET" [.json stored.document, pathValue path, v] =
      some (.json (Json.setAt w path stored.document)) := by
    simp [Value.call?, Value.setPairs?, pathValue, path?_jsonPath, hw]
  exact ((means_orObject hcolumn hstored).all.append hpair).call hvalue

theorem means_provider (hnull : env "NULL" = some .null)
    (hcolumn : Means plus env (c.solidTokens g) stored)
    (hstored : stored = .null ∨ ∃ d, stored = .json d) {e : String × Option Json}
    (h : Supplied env g n ((providerParams e).map Param.given)) :
    Means plus env ((providersText c n [e]).solidTokens g) (stored.setProvider e) := by
  have hopen : solid "JSON_SET(" = [⟨.word, "JSON_SET"⟩, ⟨.mark, "("⟩] := by decide
  have hcomma : solid ", " = [⟨.mark, ","⟩] := by decide
  obtain ⟨name, value⟩ := e
  cases value with
  | none =>
    have hclose : solid ", NULL)" = [⟨.mark, ","⟩, ⟨.word, "NULL"⟩, ⟨.mark, ")"⟩] := by decide
    have hpath : Means plus env ((Template.slot n).solidTokens g) (pathValue [name]) := h.means
    have hset := means_setPair hcolumn hstored (w := .null)
      (hpath.all.append (Term.means_word hnull).all) rfl
    simpa [Value.setProvider, providersText, hopen, hcomma, hclose] using hset
  | some v =>
    have hcast : solid ", CAST(" = [⟨.mark, ","⟩, ⟨.word, "CAST"⟩, ⟨.mark, "("⟩] := by decide
    have hclose : solid " AS JSON)" = [⟨.word, "AS"⟩, ⟨.word, "JSON"⟩, ⟨.mark, ")"⟩] := by decide
    have hend : solid " AS JSON))" =
        [⟨.word, "AS"⟩, ⟨.word, "JSON"⟩, ⟨.mark, ")"⟩, ⟨.mark, ")"⟩] := by decide
    have hvalues : Supplied env g n [pathValue [name], .source v] := h
    have hset := means_setPair hcolumn hstored (w := v) (means_valuePair hvalues) rfl
    simpa [Value.setProvider, providersText, hopen, hcomma, hcast, hclose, hend] using hset

/-- **Providers are set one after the other.** -/
theorem means_setProviders (hnull : env "NULL" = some .null)
    (hcolumn : Means plus env (c.solidTokens g) stored)
    (hstored : stored = .null ∨ ∃ d, stored = .json d) {entries : List (String × Option Json)}
    (h : Supplied env g n ((params (.setProviders entries)).map Param.given)) :
    Means plus env ((text c n (.setProviders entries)).solidTokens g)
      (entries.foldl Value.setProvider stored) := by
  induction entries generalizing c n stored with
  | nil => exact hcolumn
  | cons e rest ih =>
    rw [params, List.flatMap_cons, List.map_append, supplied_append, List.length_map] at h
    rw [text, providersText_cons, List.foldl_cons]
    exact ih (means_provider hnull hcolumn hstored h.1) (.inr ⟨_, rfl⟩) h.2

end Step

/-! ### The word `NULL` -/

namespace SetClause

/-- The values of words, where `NULL` is one of them. -/
def nullable (words : String → Option Value) (source : String) : Option Value :=
  if source = "NULL" then some .null else words source

variable {plus : Number → Number → Number} {words : String → Option Value} {column : String}
  {stored : Value} {k n : Nat} {vs : List Value}

/-- No placeholder is the word `NULL`. -/
theorem supplied_nullable (h : Supplied words (fun i => Template.placeholder (i + k)) n vs) :
    Supplied (nullable words) (fun i => Template.placeholder (i + k)) n vs := by
  induction vs generalizing n with
  | nil => trivial
  | cons v vs ih =>
    obtain ⟨hword, hvalue, hrest⟩ := h
    have hother : (Template.placeholder (n + k)).source ≠ "NULL" := by
      intro heq
      have hfirst := congrArg (List.head? ∘ String.toList) heq
      simp [Template.placeholder] at hfirst
    refine ⟨hword, ?_, ih hrest⟩
    rw [nullable, if_neg hother]
    exact hvalue

/-- The value of a column after one assignment that may use the word `NULL`. -/
def assignNullable (plus : Number → Number → Number) (column : String) (params : List Param)
    (stored : Value) (assignment : Template) : Option Value :=
  assignWith plus (nullable (wordValue column params stored)) column params stored assignment

/-- The assignment that sets providers. -/
theorem assignNullable_setProviders (front : List Param) (entries : List (String × Option Json))
    (hstored : stored = .null ∨ ∃ d, stored = .json d) :
    let s := (ofChanges [⟨column, [.setProviders entries]⟩]).shift front.length
    ∃ assignment, s.assignments = [assignment] ∧
      assignNullable plus column (front ++ s.params) stored assignment =
        some (entries.foldl Value.setProvider stored) := by
  intro s
  let step := Step.setProviders entries
  have hparams : s.params = .ident column :: ([] ++ (step.params ++ [])) := by
    simp [s, step, shift, ofChanges, ofChange]
  have hassignments : s.assignments =
      [(sql [.slot 1, " = ", step.text (.slot 1) 2]).shift front.length] := by
    simp [s, step, shift, ofChanges, ofChange, Step.assignments]
  refine ⟨_, hassignments, ?_⟩
  let words := wordValue column (front ++ .ident column :: ([] ++ (step.params ++ []))) stored
  obtain ⟨hcolumn, hvalues⟩ := supplied_step front [] [] step
  have hmeans : Means plus (nullable words) ((step.text (.slot 1) 2).solidTokens
      fun i => Template.placeholder (i + front.length)) (entries.foldl Value.setProvider stored) :=
    Step.means_setProviders (if_pos rfl) (supplied_nullable hcolumn).means hstored
      (supplied_nullable hvalues)
  obtain ⟨e, he, hvalue⟩ := hmeans
  rw [hparams, assignNullable, assignWith_eq (by omega), if_pos rfl, he.isArguments.read?]
  exact hvalue

end SetClause

/-! ### Members of the document -/

/-- An object after providers were set in it: the last entry of each provider counts. -/
structure HasProviders (entries : List (String × Option Json)) (before after : Object) : Prop where
  given : ∀ p v, entries.reverse.lookup p = some (some v) → after.get? p = some v
  /-- A provider without a value is there, with the value `null`. -/
  nulled : ∀ p, entries.reverse.lookup p = some none → after.get? p = some .null
  kept : ∀ p, entries.reverse.lookup p = none → after.get? p = before.get? p

/-- What providers are after they were set one after the other. -/
theorem exists_document_foldl_setProvider (entries : List (String × Option Json)) {stored : Value}
    {before : Object} (h : stored.document = .obj before) :
    ∃ after : Object, (entries.foldl Value.setProvider stored).document = .obj after ∧
      ∀ p, after.get? p =
        ((entries.reverse.lookup p).map fun v => v.getD .null).or (before.get? p) := by
  induction entries generalizing stored before with
  | nil => exact ⟨before, h, fun p => rfl⟩
  | cons e rest ih =>
    obtain ⟨name, value⟩ := e
    have hfirst : (stored.setProvider (name, value)).document =
        .obj (before.insert name (value.getD .null)) := by
      rw [Value.setProvider, h]
      exact Json.setAt_member before name _
    obtain ⟨after, hafter, hlast⟩ := ih hfirst
    refine ⟨after, hafter, fun p => ?_⟩
    rw [hlast, List.reverse_cons, List.lookup_append]
    cases rest.reverse.lookup p with
    | some v => rfl
    | none =>
      by_cases hp : p = name
      · subst hp
        simp [Object.get?_insert_self]
      · have hother : (p == name) = false := by simpa using hp
        simp [List.lookup_cons, hother, Object.get?_insert_of_ne _ hp]

/-- **Setting providers**, in a column that is `NULL` or holds an object. -/
theorem hasProviders_foldl_setProvider {entries : List (String × Option Json)} {stored : Value}
    (hstored : stored = .null ∨ ∃ m, stored = .json (.obj m)) :
    (entries = [] → entries.foldl Value.setProvider stored = stored) ∧
      (entries ≠ [] → ∃ before after, stored.document = .obj before ∧
        entries.foldl Value.setProvider stored = .json (.obj after) ∧
          HasProviders entries before after) := by
  refine ⟨fun hempty => by rw [hempty, List.foldl_nil], fun hne => ?_⟩
  obtain ⟨before, hbefore⟩ : ∃ before, stored.document = .obj before := by
    rcases hstored with rfl | ⟨m, rfl⟩
    · exact ⟨[], rfl⟩
    · exact ⟨m, rfl⟩
  obtain ⟨after, hafter, hmembers⟩ := exists_document_foldl_setProvider entries hbefore
  have hjson : entries.foldl Value.setProvider stored = .json (.obj after) := by
    obtain ⟨front, last, rfl⟩ := (List.eq_nil_or_concat' entries).resolve_left hne
    rw [List.foldl_append] at hafter ⊢
    exact congrArg Value.json hafter
  refine ⟨before, after, hbefore, hjson, ?_, ?_, ?_⟩
  · intro p v hp
    rw [hmembers, hp]
    rfl
  · intro p hp
    rw [hmembers, hp]
    rfl
  · intro p hp
    rw [hmembers, hp]
    rfl

namespace Update

variable {schema storage : ClassSchema} {u : Update} {o : Object} {e : String × Json}
  {entries : List (String × Option Json)} {column : String} {stored : Value}

/-! ### Entries about providers -/

/-- The providers that an entry lists: that of its key, or the members of an object. -/
def providerEntries (e : String × Json) : List (String × Option Json) :=
  match Key.provider? e.1, e.2 with
  | some provider, v => [(provider, providerValue v)]
  | none, .obj members => members.map fun m => (m.1, providerValue m.2)
  | none, _ => []

theorem eq_providerEntries (h : contribution storage e = .ok (.providers entries)) :
    entries = providerEntries e := by
  obtain ⟨key, operand⟩ := e
  unfold contribution at h
  split at h
  · next provider hprovider =>
    cases h
    dsimp only at hprovider
    simp [providerEntries, hprovider]
  · next hprovider hundotted =>
    obtain ⟨read, hread, heq⟩ := Result.map_eq_ok.1 h
    dsimp only at hprovider hread heq
    cases reads_of_readPlain hread with
    | operator htype htag hop =>
      rw [plainContribution_of_column (slot_of_readOperator hop)] at heq
      cases heq
    | providers htype htag hrelation hkey hobject =>
      cases heq
      simp [providerEntries, hprovider, hobject]
    | null | ofRelation | relation | whole | set => cases heq
  · next hprovider hdotted =>
    split at h
    · obtain ⟨change, -, heq⟩ := Result.map_eq_ok.1 h
      cases heq
    · cases h

/-- All operators of an update list providers. -/
def ListsProviders (u : Update) : Prop := ∀ x ∈ u, Slot.ofOperator x.2 = .providers

/-- An update whose operators all list providers is one list of what its entries list. -/
theorem eq_of_listsProviders (h : ofObject schema o = .ok u) (hall : ListsProviders u) :
    u = if inOrder o = [] then [] else
      [("authData", .providers ((inOrder o).flatMap providerEntries))] := by
  refine ofObject_keeps (P := fun before u => ListsProviders u →
    u = if before = [] then [] else [("authData", .providers (before.flatMap providerEntries))])
    (fun _ => rfl) ?_ h hall
  intro before e c u _ hc hu hall
  rw [if_neg (by simp), List.flatMap_append, List.flatMap_singleton]
  cases c with
  | part change =>
    -- a patch does not go away
    obtain ⟨x, hx, hother⟩ := ((joined_alterPatch _ _ u).exists_mem_iff
      (Q := fun x => Slot.ofOperator x.2 ≠ .providers) fun _ _ => Iff.rfl).2 (.inr nofun)
    exact absurd (hall x hx) hother
  | operator op =>
    have hop := hall (columnOf e.1, op) (List.mem_append_right _ List.mem_cons_self)
    have hslot := (reaches_of_contribution hc).operator op rfl
    exact absurd (hop.symm.trans hslot) nofun
  | providers entries =>
    have hold : ListsProviders u := by
      intro x hx
      by_contra hother
      obtain ⟨y, hy, hne⟩ := ((joined_addProviders entries u).exists_mem_iff
        (Q := fun x => Slot.ofOperator x.2 ≠ .providers) fun _ _ => Iff.rfl).2
          (.inl ⟨x, hx, hother⟩)
      exact hne (hall y hy)
    rw [hu hold, ← eq_providerEntries hc]
    by_cases hbefore : before = []
    · rw [if_pos hbefore, hbefore]
      rfl
    · rw [if_neg hbefore]
      rfl

/-- **Changes of authentication data.**  An update that only lists providers takes them from its
entries in the order in which they are read, and makes one assignment.  In the document of the
column, which is empty for `NULL`, the last entry of each provider counts: its value is set, and
JSON `null` if it has none.  What is not listed stays. -/
theorem authData_after (plus : Number → Number → Number) (front : List Param)
    (h : ofObject schema o = .ok [(column, .providers entries)])
    (hstored : stored = .null ∨ ∃ m, stored = .json (.obj m)) :
    column = "authData" ∧ entries = (inOrder o).flatMap providerEntries ∧
      ∃ s assignment after, compile schema o (front.length + 1) = .ok s ∧
        s.assignments = [assignment] ∧
        SetClause.assignNullable plus column (front ++ s.params) stored assignment = some after ∧
        (entries = [] → after = stored) ∧
        (entries ≠ [] → ∃ before members, stored.document = .obj before ∧
          after = .json (.obj members) ∧ HasProviders entries before members) := by
  have hread := eq_of_listsProviders h (by simp [ListsProviders, Slot.ofOperator])
  split at hread
  · cases hread
  · cases hread
    have hdocument : stored = .null ∨ ∃ d, stored = .json d := by
      rcases hstored with hnull | ⟨m, hm⟩
      · exact .inl hnull
      · exact .inr ⟨.obj m, hm⟩
    obtain ⟨assignment, hassignments, hafter⟩ := SetClause.assignNullable_setProviders front
      ((inOrder o).flatMap providerEntries) hdocument
    obtain ⟨hempty, hlisted⟩ := hasProviders_foldl_setProvider hstored
    have hcompile : compile schema o (front.length + 1) = .ok ((SetClause.ofChanges
        [⟨"authData", [.setProviders ((inOrder o).flatMap providerEntries)]⟩]).shift
          front.length) := by
      rw [compile, h]
      rfl
    exact ⟨rfl, rfl, _, assignment, _, hcompile, hassignments, hafter, hempty, hlisted⟩

/-- A user's new phone, one provider without a value, and one that is given twice. -/
def loginChange : Object :=
  [("authData", .obj [("site", .null), ("phone", .obj [("id", .str "2")])]),
    ("_auth_data_phone", .obj [("id", .str "1")])]

/-- Authentication data of a user. -/
def loginData : Object := [("site", .obj [("id", .str "7")]), ("mail", .bool true)]

theorem authData_after_login :
    ∃ (s : SetClause) (assignment : Template) (members : Object),
      compile (ClassSchema.named "_User") loginChange 2 = .ok s ∧ s.assignments = [assignment] ∧
      SetClause.assignNullable (fun m _ => m) "authData" (.ident "_User" :: s.params)
        (.json (.obj loginData)) assignment = some (.json (.obj members)) ∧
      members.get? "phone" = some (.obj [("id", .str "2")]) ∧
      members.get? "site" = some .null ∧ members.get? "mail" = some (.bool true) := by
  have hread : ofObject (ClassSchema.named "_User") loginChange =
      .ok [("authData", .providers [("phone", some (.obj [("id", .str "1")])), ("site", none),
        ("phone", some (.obj [("id", .str "2")]))])] := by decide +kernel
  obtain ⟨-, -, s, assignment, after, hs, hassignment, hafter, -, hlisted⟩ :=
    authData_after (fun m _ => m) [.ident "_User"] hread (.inr ⟨loginData, rfl⟩)
  obtain ⟨before, members, hbefore, rfl, hmembers⟩ := hlisted (List.cons_ne_nil _ _)
  obtain rfl : loginData = before := Json.obj.inj hbefore
  refine ⟨s, assignment, members, hs, hassignment, hafter, ?_, ?_, ?_⟩
  · exact hmembers.given _ _ (by decide +kernel)
  · exact hmembers.nulled _ (by decide +kernel)
  · exact (hmembers.kept _ (by decide +kernel)).trans (by decide +kernel)

/-- What the authentication data of a user become by an update with one assignment. -/
def userDataAfter? (o : Object) (stored : Value) : Option Value :=
  (compile (ClassSchema.named "_User") o 2).toOption.bind fun s =>
    match s.assignments with
    | [assignment] =>
      SetClause.assignNullable (fun m _ => m) "authData" (.ident "_User" :: s.params) stored
        assignment
    | _ => none

/-- A removed provider is still there, and nothing becomes of `NULL` without an entry. -/
theorem not_removed_provider :
    userDataAfter? [("_auth_data_phone", .obj [("__op", .str "Delete")])]
        (.json (.obj [("phone", .obj [("id", .str "1")])])) =
      some (.json (.obj [("phone", .null)])) ∧
    userDataAfter? [("authData", .obj [])] .null = some .null ∧
    ¬ ∀ (o : Object) (entries : List (String × Option Json)) (stored after : Value),
      ofObject (ClassSchema.named "_User") o = .ok [("authData", .providers entries)] →
        (stored = .null ∨ ∃ m, stored = .json (.obj m)) → userDataAfter? o stored = some after →
          ∃ members : Object, after = .json (.obj members) ∧
            ∀ p, entries.reverse.lookup p = some none → members.get? p = none := by
  have hkept : userDataAfter? [("_auth_data_phone", .obj [("__op", .str "Delete")])]
      (.json (.obj [("phone", .obj [("id", .str "1")])])) =
        some (.json (.obj [("phone", .null)])) := by decide +kernel
  have hread : ofObject (ClassSchema.named "_User")
      [("_auth_data_phone", .obj [("__op", .str "Delete")])] =
        .ok [("authData", .providers [("phone", none)])] := by decide +kernel
  refine ⟨hkept, by decide +kernel, fun hall => ?_⟩
  obtain ⟨members, hmembers, hremoved⟩ := hall _ _ _ _ hread (.inr ⟨_, rfl⟩) hkept
  obtain rfl := Json.obj.inj (Value.json.inj hmembers)
  exact absurd (hremoved "phone" (by decide +kernel)) (by decide +kernel)

end Update

end DocStore
