import DocStore.Proofs.Command.Condition
import DocStore.Proofs.Document.Expansion
import DocStore.Proofs.Sql.Values
import DocStore.Proofs.Update.Places

/-!
# Paths of dotted names

A path into a JSON column is quoted twice: its names as members of the path, and the path as a
string literal.  Read back in the other order, the literal gives the path and the path its names
(`Sql.literalPath?_text`).

So the parameters of a dotted name say exactly which place it is about (`Sql.Param.Locates`), where
it stands in a query (`Query.exists_locates_of_mem_tree`), in an order
(`Query.exists_locates_of_mem_sort`) and in a change (`Update.exists_locates_of_mem`).  Different
places in a column have different paths (`Key.paths_read_back`).
-/

namespace DocStore

open Sql

/-! ### Literals of paths -/

namespace Sql

/-- The names on the path that a string literal holds. -/
def literalPath? (text : String) : Option (List String) :=
  match tokens? text with
  | some [⟨.string content, _⟩] => path? content
  | _ => none

/-- **A path is read back from its literal.** -/
theorem literalPath?_text (names : List String) :
    literalPath? (Param.text (jsonPath names)).render = some names := by
  have htokens : tokens? (Param.text (jsonPath names)).render =
      some [⟨.string (jsonPath names), quoteString (jsonPath names)⟩] :=
    tokens?_quoteString (jsonPath names)
  rw [literalPath?, htokens]
  exact path?_jsonPath names

/-- Different names have different paths. -/
theorem jsonPath_injective : Function.Injective jsonPath := by
  intro names others h
  have hread := path?_jsonPath names
  rw [h, path?_jsonPath] at hread
  exact (Option.some.inj hread).symm

/-- Number `i` among the parameters is filled in with the name of a column, and number `k` with a
literal of the path inside it. -/
structure Param.Locates (params : List Param) (i k : Nat) (column : String) (path : List String) :
    Prop where
  column : Param.textAt params i = quoteName column
  path : literalPath? (Param.textAt params k) = some path

/-- The parameters of a place inside a column locate it. -/
theorem Param.StandAt.locates {x : Target} {i : Nat} {params : List Param}
    (h : StandAt i x.params params) (hpath : x.path ≠ []) :
    Locates params i (i + 1) x.column x.path := by
  have hparams : x.params = [.ident x.column, .text (jsonPath x.path)] := by
    simp [Target.params, Target.isNested, hpath]
  rw [hparams] at h
  have hinner : StandAt (i + 1) [.text (jsonPath x.path)] params :=
    h.inner (k := 1) ⟨[.ident x.column], [], rfl, rfl⟩
  refine ⟨h.textAt, ?_⟩
  rw [hinner.textAt]
  exact literalPath?_text x.path

end Sql

open Param (StandAt Locates)

/-! ### Names -/

theorem Target.text_of_nested {x : Target} (h : x.path ≠ []) (n : Nat) :
    x.text n = sql [.slot n, "->>", .slot (n + 1)] := by
  simp [text, isNested, h]

variable {name root : String} {path : List String}

theorem Key.split_of_segments (h : segments name = root :: path) : split name = (root, path) := by
  rw [segments_eq] at h
  obtain ⟨hroot, hpath⟩ := List.cons.inj h
  exact Prod.ext hroot hpath

/-- The root of a provider gives way to the column of all providers. -/
theorem Target.ofName_eq (h : Key.segments name = root :: path) :
    ofName name = ⟨if (Key.provider? root).isSome then "authData" else root,
      (Key.provider? root).toList ++ path⟩ := by
  rw [ofName, Key.split_of_segments h]
  cases hprovider : Key.provider? root <;> simp [hprovider]

/-- The key of a provider holds no dot. -/
theorem Key.undotted_of_provider? {provider : String} (h : provider? name = some provider) :
    '.' ∉ name.toList := by
  obtain ⟨hchars, -, hall⟩ := provider?_eq_some_iff.1 h
  have hstart : '.' ∉ providerStart := by decide
  have hdot : isProviderChar '.' = false := by decide
  rw [hchars, List.mem_append, not_or]
  refine ⟨hstart, fun hmem => ?_⟩
  rw [hall _ hmem] at hdot
  cases hdot

theorem Update.isDotted_of_segments (h : Key.segments name = root :: path) (hpath : path ≠ []) :
    IsDotted name := by
  have hbelow : (Key.split name).2 ≠ [] := by rwa [Key.split_of_segments h]
  refine ⟨Option.eq_none_iff_forall_ne_some.2 fun provider hprovider => ?_, hbelow⟩
  exact hbelow (Key.split_snd_eq_nil_iff.2 (Key.undotted_of_provider? hprovider))

/-! ### Queries -/

namespace Query

variable {schema : ClassSchema} {q : Query}

/-- **A name inside a column is located where a query constrains it**: the test of the constraint
stands in the condition, and its parameters are the column and the path of the name. -/
theorem exists_locates_of_mem_tree {v : Json} {front : List Param} {w : WhereClause} {leaf : Leaf}
    (hread : ofJson v = .ok q) (hcompile : q.compile schema (front.length + 1) = .ok w)
    (hleaf : leaf ∈ (tree schema.storage v).atoms)
    (hname : Key.segments leaf.field = root :: path)
    (hnested : (Key.provider? root).toList ++ path ≠ []) (back : List Param) :
    ∃ test i n, leaf.LowersTo schema.storage (Target.ofName leaf.field, test) ∧
      test.condition (sql [.slot i, "->>", .slot (i + 1)]) n <:+: w.pattern ∧
      Locates (front ++ w.params ++ back) i (i + 1)
        (if (Key.provider? root).isSome then "authData" else root)
        ((Key.provider? root).toList ++ path) := by
  obtain ⟨x, test, i, n, hlowers, hcondition, htarget, -⟩ :=
    exists_test_of_mem_tree hread hcompile hleaf
  obtain rfl : x = Target.ofName leaf.field := hlowers.1
  refine ⟨test, i, n, hlowers, ?_⟩
  rw [Target.ofName_eq hname] at hcondition htarget
  rw [Target.text_of_nested hnested] at hcondition
  exact ⟨hcondition, (htarget.append_right back).locates hnested⟩

end Query

/-! ### Orders -/

namespace Selection

variable {s : Selection} {item : OrderItem}

/-- What a caller wishes is the order, if the filter has none of its own. -/
theorem wished_eq (h : s.filter.whereClause.sorts = []) : s.wished = s.order := by
  have hplaced : s.placed.sorts = [] := by
    rw [placed, WhereClause.shift, h]
    rfl
  rw [wished, hplaced]
  rfl

theorem infix_listAfter {keyword : String} {t : Template} {items : List Template} (h : t ∈ items) :
    t <:+: listAfter keyword items := by
  cases items with
  | nil => cases h
  | cons first rest =>
    have hitems : t <:+: Template.join ", " (first :: rest) := Template.infix_join h
    exact hitems.trans ⟨[.text keyword], [], by simp [listAfter, sql]⟩

theorem infix_orderText {t : Template} (h : t ∈ s.orderTexts) (table : String) :
    t <:+: (s.statement table).text := by
  have horder : t <:+: listAfter " ORDER BY " s.orderTexts := infix_listAfter h
  rw [text_statement]
  exact horder.trans (List.infix_of_mem_flatten (by simp))

/-- **An item of the order stands in the statement**, with its own parameters. -/
theorem exists_orderItem (h : item ∈ s.wished) (table : String) :
    ∃ n, item.text (s.placed.score.getD []) n <:+: (s.statement table).text ∧
      StandAt n item.params (s.statement table).params := by
  -- in front of the order stand the table, the condition, the columns and the relevance
  let front : List Param := .ident table :: s.placed.params ++ s.columns.map .ident ++
    s.scoreRead.toList.map fun _ => .ident "score"
  have hfirst : front.length + 1 = s.firstOrder := by
    simp [front, firstOrder, scoreNumber, firstColumn]
    omega
  obtain ⟨n, hn, hstand⟩ := Param.exists_standAt OrderItem.params
    (fun n item => item.text (s.placed.score.getD []) n)
    (OrderItem.texts (s.placed.score.getD [])) (fun _ _ _ => rfl) h front
    (s.counts.map fun e => countParam e.2)
  rw [hfirst] at hn
  rw [← List.append_assoc] at hstand
  exact ⟨n, infix_orderText (List.mem_append_right _ hn) table, hstand⟩

end Selection

namespace Query

variable {schema : ClassSchema} {q : Query} {options : FindOptions} {s : Selection}
  {direction : Direction}

/-- Every key but that of the relevance is an item of the order. -/
theorem mem_order_of_select (h : q.select schema options = .ok s)
    (hsorts : s.filter.whereClause.sorts = []) (hkey : (name, direction) ∈ options.sort)
    (hscore : name ≠ scoreKey) :
    .target ⟨(Key.split name).1, (Key.split name).2⟩ direction ∈ s.order := by
  obtain ⟨f, -, h⟩ := Result.bind_eq_ok.1 h
  dsimp only at h
  split at h
  · obtain ⟨order, horder, h⟩ := Result.bind_eq_ok.1 h
    cases h
    exact Result.mem_of_mem_mapM horder hkey (by simp [orderItem, hscore])
  · next hnonempty =>
    cases h
    simp [hsorts] at hnonempty

/-- **A name inside a column is located where rows are ordered by it**, which they are unless the
filter has an order of its own. -/
theorem exists_locates_of_mem_sort (h : q.select schema options = .ok s)
    (hsorts : s.filter.whereClause.sorts = []) (hkey : (name, direction) ∈ options.sort)
    (hname : Key.segments name = root :: path) (hpath : path ≠ []) (table : String) :
    ∃ i, sql [.slot i, "->>", .slot (i + 1), " ", direction.keyword] <:+:
        (s.statement table).text ∧
      Locates (s.statement table).params i (i + 1) root path := by
  have hscore : name ≠ scoreKey := by
    rintro rfl
    have hparts : Key.segments scoreKey = [scoreKey] := by decide +kernel
    rw [hparts] at hname
    exact hpath (List.cons.inj hname).2.symm
  have hitem := mem_order_of_select h hsorts hkey hscore
  rw [← Selection.wished_eq hsorts, Key.split_of_segments hname] at hitem
  obtain ⟨i, htext, hparams⟩ := Selection.exists_orderItem hitem table
  refine ⟨i, ?_, hparams.locates hpath⟩
  rw [OrderItem.text, Target.text_of_nested hpath] at htext
  exact htext

end Query

/-! ### Changes -/

namespace Update

/-- **A name inside a column is located where its member is changed**: the change stands in an
assignment of the column, and its first parameter is the path of the name. -/
theorem exists_locates_of_mem {schema : ClassSchema} {o : Object} {front : List Param}
    {s : SetClause} {operand : Json} (h : compile schema o (front.length + 1) = .ok s)
    (he : (name, operand) ∈ o) (hname : Key.segments name = root :: path) (hpath : path ≠ [])
    (back : List Param) :
    ∃ part j k value, nestedPart name path operand = .ok part ∧
      sql [.slot j, " = ", value] ∈ s.assignments ∧ part.text (.slot j) k <:+: value ∧
      Locates (front ++ s.params ++ back) j k root path := by
  have hdotted := isDotted_of_segments hname hpath
  obtain ⟨part, j, k, value, hpart, hassignment, htext, hcolumn, hparams⟩ :=
    exists_place_of_isDotted h he hdotted
  have hroot : columnOf name = root := by
    rw [columnOf, hdotted.1, Key.split_of_segments hname]
  rw [Key.split_of_segments hname] at hpart
  obtain ⟨others, hothers⟩ :=
    Patch.Part.params_eq_cons (Patch.Part.path?_of_nestedPart hpart)
  rw [hothers] at hparams
  refine ⟨part, j, k, value, hpart, hassignment, htext, ?_, ?_⟩
  · rw [(hcolumn.append_right back).textAt, hroot]
    rfl
  · rw [(hparams.append_right back).textAt]
    exact literalPath?_text path

end Update

/-! ### All paths -/

namespace Key

/-- **Paths are read back, through both quotings.**  A path gives back its names, so different names
have different paths.  And a name inside a column is located by the names behind its root wherever a
query constrains it, rows are ordered by it or an update changes it; in a query, the key of a
provider as root is a place inside `authData`. -/
theorem paths_read_back (schema : ClassSchema) :
    (∀ names, path? (jsonPath names) = some names) ∧ Function.Injective jsonPath ∧
    (∀ {v : Json} {q : Query} {front : List Param} {w : WhereClause} {leaf : Leaf} {root : String}
        {path : List String}, Query.ofJson v = .ok q →
      q.compile schema (front.length + 1) = .ok w →
      leaf ∈ (Query.tree schema.storage v).atoms → segments leaf.field = root :: path →
      (provider? root).toList ++ path ≠ [] → ∀ back,
      ∃ test i n, leaf.LowersTo schema.storage (Target.ofName leaf.field, test) ∧
        test.condition (sql [.slot i, "->>", .slot (i + 1)]) n <:+: w.pattern ∧
        Locates (front ++ w.params ++ back) i (i + 1)
          (if (provider? root).isSome then "authData" else root)
          ((provider? root).toList ++ path)) ∧
    (∀ {q : Query} {options : FindOptions} {s : Selection} {name : String} {direction : Direction}
        {root : String} {path : List String}, q.select schema options = .ok s →
      s.filter.whereClause.sorts = [] → (name, direction) ∈ options.sort →
      segments name = root :: path → path ≠ [] → ∀ table,
      ∃ i, sql [.slot i, "->>", .slot (i + 1), " ", direction.keyword] <:+:
          (s.statement table).text ∧
        Locates (s.statement table).params i (i + 1) root path) ∧
    (∀ {o : Object} {front : List Param} {s : SetClause} {name : String} {operand : Json}
        {root : String} {path : List String},
      Update.compile schema o (front.length + 1) = .ok s → (name, operand) ∈ o →
      segments name = root :: path → path ≠ [] → ∀ back,
      ∃ part j k value, Update.nestedPart name path operand = .ok part ∧
        sql [.slot j, " = ", value] ∈ s.assignments ∧ part.text (.slot j) k <:+: value ∧
        Locates (front ++ s.params ++ back) j k root path) :=
  ⟨path?_jsonPath, jsonPath_injective, Query.exists_locates_of_mem_tree,
    Query.exists_locates_of_mem_sort, Update.exists_locates_of_mem⟩

/-- A class with a column for places and one for providers. -/
def quaySchema : ClassSchema :=
  ((ClassSchema.named "Quay").field "place" .object).field "authData" .object

/-- A query about a member that is named with a quote and a backslash and has one without a name,
and about a provider. -/
def quayQuery : Json :=
  .obj [("place.a\"b\\.", .str "x"), ("_auth_data_site.id", .str "1")]

/-- An order by a member below one without a name. -/
def quayOptions : FindOptions :=
  { FindOptions.none with sort := [("place..c'", .descending)] }

/-- A change below a member that is named with two backslashes and a quote. -/
def quayChange : Object := [("place.\\\\.\"", .obj [("__op", .str "Delete")])]

theorem paths_read_back_quay :
    ∃ q w s u, Query.ofJson quayQuery = .ok q ∧ q.compile quaySchema 2 = .ok w ∧
      q.select quaySchema quayOptions = .ok s ∧ Update.compile quaySchema quayChange 2 = .ok u ∧
      (∃ i, Locates (.ident "Quay" :: w.params) i (i + 1) "place" ["a\"b\\", ""]) ∧
      (∃ i, Locates (.ident "Quay" :: w.params) i (i + 1) "authData" ["site", "id"]) ∧
      (∃ i, Locates (s.statement "Quay").params i (i + 1) "place" ["", "c'"]) ∧
      ∃ j k, Locates (.ident "Quay" :: u.params) j k "place" ["\\\\", "\""] := by
  obtain ⟨-, -, hquery, hsort, hupdate⟩ := paths_read_back quaySchema
  obtain ⟨q, w, s, u, hq, hw, hs, hsorts, hu⟩ : ∃ q w s u, Query.ofJson quayQuery = .ok q ∧
      q.compile quaySchema 2 = .ok w ∧ q.select quaySchema quayOptions = .ok s ∧
      s.filter.whereClause.sorts = [] ∧ Update.compile quaySchema quayChange 2 = .ok u :=
    ⟨_, _, _, _, rfl, rfl, rfl, rfl, rfl⟩
  have hplace : provider? "place" = none := by decide +kernel
  have hsite : provider? "_auth_data_site" = some "site" := by decide +kernel
  refine ⟨q, w, s, u, hq, hw, hs, hu, ?_, ?_, ?_, ?_⟩
  · obtain ⟨-, i, -, -, -, h⟩ := @hquery quayQuery q [.ident "Quay"] w
      (.value "place.a\"b\\." (.str "x")) "place" ["a\"b\\", ""] hq hw List.mem_cons_self
      (by decide +kernel) (by simp) []
    rw [hplace, List.append_nil] at h
    exact ⟨i, h⟩
  · obtain ⟨-, i, -, -, -, h⟩ := @hquery quayQuery q [.ident "Quay"] w
      (.value "_auth_data_site.id" (.str "1")) "_auth_data_site" ["id"] hq hw
      (List.mem_cons_of_mem _ List.mem_cons_self) (by decide +kernel) (by simp) []
    rw [hsite, List.append_nil] at h
    exact ⟨i, h⟩
  · obtain ⟨i, -, h⟩ := @hsort q quayOptions s "place..c'" .descending "place" ["", "c'"] hs hsorts
      List.mem_cons_self (by decide +kernel) (by simp) "Quay"
    exact ⟨i, h⟩
  · obtain ⟨-, j, k, -, -, -, -, h⟩ := @hupdate quayChange [.ident "Quay"] u "place.\\\\.\"" _
      "place" ["\\\\", "\""] hu List.mem_cons_self (by decide +kernel) (by simp) []
    rw [List.append_nil] at h
    exact ⟨j, k, h⟩

end Key

end DocStore
