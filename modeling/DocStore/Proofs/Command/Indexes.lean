import DocStore.Proofs.Command.Items

/-!
# Names and texts of indexes

The name of an index is made of its kind and of its sorted fields with underscores between them.
Field names may hold underscores too, so what a name tells is the sequence of the parts between
underscores (`Statement.indexName_eq_iff`), and of fields without underscores all but their order
(`Statement.nameParts_eq_iff_perm`).

The text of a command that adds an index says its table, its name, its kind and its fields
(`Index.exists_render`).
-/

namespace DocStore

open Sql

/-! ### Names -/

namespace Sql.Statement

/-- Fields in the order of their names. -/
def sortFields (fields : List String) : List String := fields.mergeSort fun a b => a ≤ b

/-- The parts between underscores of sorted fields.  No field is the one empty part. -/
def nameParts (fields : List String) : List (List Char) :=
  match sortFields fields with
  | [] => [[]]
  | sorted => sorted.flatMap fun field => field.toList.splitOn '_'

/-- A field name without underscores. -/
def IsUnbroken (field : String) : Prop := field ≠ "" ∧ '_' ∉ field.toList

variable {kind : String} {a b fields : List String}

theorem splitOn_intercalate_eq_flatMap (c : Char) {texts : List (List Char)} (h : texts ≠ []) :
    (List.intercalate [c] texts).splitOn c = texts.flatMap fun text => text.splitOn c := by
  induction texts with
  | nil => exact absurd rfl h
  | cons text rest ih =>
    cases rest with
    | nil => simp
    | cons next rest =>
      rw [List.intercalate_cons_cons, List.append_assoc, List.singleton_append,
        List.splitOn_append_cons_self, ih (List.cons_ne_nil _ _)]
      rfl

theorem splitOn_toList_intercalate (fields : List String) :
    ("_".intercalate (sortFields fields)).toList.splitOn '_' = nameParts fields := by
  rw [String.toList_intercalate, nameParts]
  cases sortFields fields with
  | nil => rfl
  | cons field rest =>
    have hparts := splitOn_intercalate_eq_flatMap '_'
      (List.cons_ne_nil field.toList (rest.map String.toList))
    rw [List.map_cons]
    exact hparts.trans (by rw [← List.map_cons, List.flatMap_map])

/-- **The name of an index tells the parts of its sorted fields.** -/
theorem indexName_eq_iff : indexName kind a = indexName kind b ↔ nameParts a = nameParts b := by
  rw [← splitOn_toList_intercalate, ← splitOn_toList_intercalate]
  constructor
  · intro h
    have hjoined : "_".intercalate (sortFields a) = "_".intercalate (sortFields b) :=
      String.append_right_inj (kind ++ "_") |>.1 h
    rw [hjoined]
  · intro h
    -- a text is put together again from its parts
    have hjoined := congrArg (List.intercalate ['_']) h
    rw [List.intercalate_splitOn, List.intercalate_splitOn] at hjoined
    exact congrArg (kind ++ "_" ++ ·) (String.toList_injective hjoined)

theorem sortFields_perm (fields : List String) : (sortFields fields).Perm fields :=
  List.mergeSort_perm _ _

theorem sortFields_eq_iff : sortFields a = sortFields b ↔ a.Perm b := by
  constructor
  · intro h
    exact (sortFields_perm a).symm.trans (h ▸ sortFields_perm b)
  · intro h
    have hsorted : ∀ fields : List String, (sortFields fields).Pairwise fun a b => a ≤ b := by
      intro fields
      have hpairwise : (sortFields fields).Pairwise fun a b => decide (a ≤ b) = true := by
        refine List.pairwise_mergeSort (fun a b c hab hbc => ?_) (fun a b => ?_) fields
        · simp only [decide_eq_true_eq] at hab hbc ⊢
          exact String.le_trans hab hbc
        · simpa using String.le_total a b
      exact hpairwise.imp of_decide_eq_true
    have hperm : (sortFields a).Perm (sortFields b) :=
      (sortFields_perm a).trans (h.trans (sortFields_perm b).symm)
    exact hperm.eq_of_pairwise (fun _ _ _ _ hab hba => String.le_antisymm hab hba) (hsorted a)
      (hsorted b)

/-- The parts of fields without underscores are the fields. -/
theorem nameParts_of_isUnbroken (h : ∀ field ∈ fields, IsUnbroken field) (hne : fields ≠ []) :
    nameParts fields = (sortFields fields).map String.toList := by
  have hparts : ∀ sorted : List String, (∀ field ∈ sorted, IsUnbroken field) →
      sorted.flatMap (fun field => field.toList.splitOn '_') = sorted.map String.toList := by
    intro sorted hsorted
    induction sorted with
    | nil => rfl
    | cons field rest ih =>
      rw [List.flatMap_cons, List.map_cons, ih fun f hf => hsorted f (List.mem_cons_of_mem _ hf),
        List.splitOn_eq_singleton (hsorted field List.mem_cons_self).2, List.singleton_append]
  have hsorted := hparts (sortFields fields) fun field hfield =>
    h field ((sortFields_perm fields).mem_iff.1 hfield)
  rw [nameParts]
  split
  · next hnil =>
    exact absurd ((sortFields_perm fields).symm.trans (hnil ▸ .refl _)).eq_nil hne
  · exact hsorted

/-- Without fields there is one empty part, and no field is empty. -/
theorem eq_nil_of_nameParts (h : ∀ field ∈ fields, IsUnbroken field)
    (hparts : nameParts fields = nameParts []) : fields = [] := by
  by_contra hne
  have hempty : nameParts [] = [[]] := by simp [nameParts, sortFields]
  rw [nameParts_of_isUnbroken h hne, hempty] at hparts
  obtain ⟨field, hfield, htext⟩ := List.mem_map.1 (hparts ▸ List.mem_cons_self)
  refine (h field ((sortFields_perm fields).mem_iff.1 hfield)).1 ?_
  exact String.toList_injective htext

/-- **Of fields without underscores the parts tell all but the order.** -/
theorem nameParts_eq_iff_perm (ha : ∀ field ∈ a, IsUnbroken field)
    (hb : ∀ field ∈ b, IsUnbroken field) : nameParts a = nameParts b ↔ a.Perm b := by
  constructor
  · intro h
    by_cases hnil : a = []
    · subst hnil
      rw [eq_nil_of_nameParts hb h.symm]
    · have hnil' : b ≠ [] := by
        rintro rfl
        exact hnil (eq_nil_of_nameParts ha h)
      rw [nameParts_of_isUnbroken ha hnil, nameParts_of_isUnbroken hb hnil'] at h
      exact sortFields_eq_iff.1
        (List.map_injective_iff.2 (fun _ _ htext => String.toList_injective htext) h)
  · intro h
    rw [nameParts, nameParts, sortFields_eq_iff.2 h]

end Sql.Statement

/-! ### Indexes -/

/-- A kind of index. -/
inductive IndexKind where
  | unique
  | fullText
  deriving DecidableEq

namespace IndexKind

/-- What the names of indexes of a kind begin with. -/
def word : IndexKind → String
  | .unique => "unique"
  | .fullText => "fts"

end IndexKind

/-- An index over fields. -/
structure Index where
  kind : IndexKind
  fields : List String
  deriving DecidableEq

namespace Index

open Statement (nameParts)

/-- The name that the store gives to an index. -/
def name (i : Index) : String := Statement.indexName i.kind.word i.fields

/-- The command that adds the index to a table. -/
def command (i : Index) (table : String) : Command :=
  match i.kind with
  | .unique => .addUnique table i.fields
  | .fullText => .addFullText table i.fields

/-- No field has an underscore. -/
def IsUnbroken (i : Index) : Prop := ∀ field ∈ i.fields, Statement.IsUnbroken field

theorem head?_name (i : Index) : i.name.toList.head? = i.kind.word.toList.head? := by
  unfold name
  cases i.kind <;> simp [Statement.indexName, IndexKind.word, String.toList_append]

/-- The name of an index tells its kind, and the parts of its fields. -/
theorem name_eq_iff {i j : Index} :
    i.name = j.name ↔ i.kind = j.kind ∧ nameParts i.fields = nameParts j.fields := by
  obtain ⟨kind, fields⟩ := i
  obtain ⟨kind', fields'⟩ := j
  by_cases hkind : kind = kind'
  · subst hkind
    simpa [name] using Statement.indexName_eq_iff
  · have hne : name ⟨kind, fields⟩ ≠ name ⟨kind', fields'⟩ := by
      intro h
      have hfirst := congrArg (fun s : String => s.toList.head?) h
      simp only [head?_name] at hfirst
      cases kind <;> cases kind' <;> first | exact hkind rfl | exact absurd hfirst (by decide)
    simp [hkind, hne]

end Index

/-- An index that is added to a table under a name. -/
structure IndexAddition where
  table : String
  name : String
  index : Index
  deriving DecidableEq

namespace IndexAddition

/-- What tokens add. -/
def read? : List Token → Option IndexAddition
  | ⟨.word, "ALTER"⟩ :: ⟨.word, "TABLE"⟩ :: ⟨.name table, _⟩ :: ⟨.word, "ADD"⟩ ::
      ⟨.word, "CONSTRAINT"⟩ :: ⟨.name name, _⟩ :: ⟨.word, "UNIQUE"⟩ :: ts =>
    (items? ts).bind fun r => (names? r.1).map fun fields => ⟨table, name, .unique, fields⟩
  | ⟨.word, "ALTER"⟩ :: ⟨.word, "TABLE"⟩ :: ⟨.name table, _⟩ :: ⟨.word, "ADD"⟩ ::
      ⟨.word, "FULLTEXT"⟩ :: ⟨.word, "INDEX"⟩ :: ⟨.name name, _⟩ :: ts =>
    (items? ts).bind fun r => (names? r.1).map fun fields => ⟨table, name, .fullText, fields⟩
  | _ => none

/-- What a text adds. -/
def ofText? (text : String) : Option IndexAddition := (solidTokens? text).bind read?

end IndexAddition

namespace Index

theorem solidTokens_addIndex (table before name behind : String) (fields : List String) :
    (Statement.addIndex table before name behind fields).text.solidTokens
        (Param.tokenAt (Statement.addIndex table before name behind fields).params) =
      ⟨.word, "ALTER"⟩ :: ⟨.word, "TABLE"⟩ :: (Param.ident table).token :: ⟨.word, "ADD"⟩ ::
        (solid before ++ (Param.ident name).token ::
          (solid behind ++ listTokens (nameItems fields))) := by
  let g := Param.tokenAt (Statement.addIndex table before name behind fields).params
  have halter : solid "ALTER TABLE " = [⟨.word, "ALTER"⟩, ⟨.word, "TABLE"⟩] := by decide +kernel
  have hadd : solid " ADD " = [⟨.word, "ADD"⟩] := by decide
  have hopen : solid " (" = [⟨.mark, "("⟩] := by decide
  have hclose : solid ")" = [⟨.mark, ")"⟩] := by decide
  have htable : g 1 = (Param.ident table).token := rfl
  have hname : g 2 = (Param.ident name).token := rfl
  -- the fields stand behind the table and the name
  have hfields := Template.map_solidTokens_slotsFrom [.ident table, .ident name]
    (fields.map .ident) []
  rw [List.append_nil, List.length_map, List.map_map] at hfields
  have hslots : (slotsFrom 3 fields.length).map (Template.solidTokens g) =
      nameItems fields := hfields
  have hstatement : (Statement.addIndex table before name behind fields).text =
      sql ["ALTER TABLE ", .slot 1, " ADD ", before, .slot 2, behind, " (",
        .join ", " (slotsFrom 3 fields.length), ")"] := rfl
  show Template.solidTokens g _ = _
  simp [hstatement, Template.solidTokens_commas, hslots, halter, hadd, hopen, hclose,
    Template.slot, Template.solidTokens, htable, hname, listTokens]

/-- The index as it is added to a table. -/
def additionTo (i : Index) (table : String) : IndexAddition := ⟨table, i.name, i⟩

variable (i : Index) (table : String)

theorem isBuilt_command : (i.command table).IsBuilt := by
  unfold command
  cases i.kind <;> trivial

theorem read?_tokens_command :
    IndexAddition.read? (i.command table).tokens = some (i.additionTo table) := by
  obtain ⟨kind, fields⟩ := i
  have hitems := items?_nameItems fields []
  rw [List.append_nil] at hitems
  have hfields := names?_nameItems fields
  cases kind with
  | unique =>
    have hbefore : solid "CONSTRAINT " = [⟨.word, "CONSTRAINT"⟩] := by decide
    have hbehind : solid " UNIQUE" = [⟨.word, "UNIQUE"⟩] := by decide
    have htokens := solidTokens_addIndex table "CONSTRAINT "
      (Statement.indexName "unique" fields) " UNIQUE" fields
    rw [hbefore, hbehind] at htokens
    refine (congrArg IndexAddition.read? htokens).trans ?_
    exact (congrArg (Option.bind · _) hitems).trans (by rw [Option.bind_some, hfields]; rfl)
  | fullText =>
    have hbefore : solid "FULLTEXT INDEX " = [⟨.word, "FULLTEXT"⟩, ⟨.word, "INDEX"⟩] := by
      decide +kernel
    have hbehind : solid "" = [] := by decide
    have htokens := solidTokens_addIndex table "FULLTEXT INDEX "
      (Statement.indexName "fts" fields) "" fields
    rw [hbefore, hbehind] at htokens
    refine (congrArg IndexAddition.read? htokens).trans ?_
    exact (congrArg (Option.bind · _) hitems).trans (by rw [Option.bind_some, hfields]; rfl)

/-- **The text of the command adds the index to the table.** -/
theorem exists_render : ∃ text, (i.command table).render = .ok text ∧
    IndexAddition.ofText? text = some (i.additionTo table) := by
  obtain ⟨text, htext, htokens⟩ := Command.solidTokens?_render (i.isBuilt_command table)
  refine ⟨text, htext, ?_⟩
  rw [IndexAddition.ofText?, htokens, Option.bind_some, i.read?_tokens_command table]

end Index

end DocStore
