import DocStore.Proofs.Update.Assignments
import DocStore.Proofs.Update.Nested

/-!
# Steps of a patch

The entries of a column are removals, sums and members that are set.  A patch has one step for each
of these kinds, in this order, and leaves out the steps with nothing to do
(`Update.patchSteps_ofEntries`).  Each step reads the object as the one before left it
(`Update.along_patchSteps`).
-/

namespace DocStore

open Sql

namespace Update

variable {entries : List (List String × Json)} {plus : Number → Number → Number} {stored : Value}

/-- The members that are increased. -/
def increments (entries : List (List String × Json)) : List (List String × Number) :=
  (entries.filter fun e => e.2.isIncrement).map fun e => (e.1, e.2.amount)

/-- The members that are set. -/
def sets (entries : List (List String × Json)) : List (List String × Json) :=
  entries.filter fun e => e.2.opTag?.isNone

/-- The members that are deleted. -/
def deletes (entries : List (List String × Json)) : List (List String) :=
  (entries.filter fun e => e.2.isDelete).map Prod.fst

/-- The sums that members are increased to. -/
def sums (plus : Number → Number → Number) (entries : List (List String × Json)) (d : Json) :
    List (List String × Json) :=
  (increments entries).map fun e => (e.1, .num (plus (Step.numberAt d e.1) e.2))

/-- An object behind the removals. -/
def removed (entries : List (List String × Json)) (d : Json) : Json :=
  Json.removeAll (deletes entries) d

/-- An object behind the removals and sums. -/
def added (plus : Number → Number → Number) (entries : List (List String × Json)) (d : Json) :
    Json :=
  Json.mergeAll (sums plus entries (removed entries d))
    (Step.allParents ((increments entries).map Prod.fst)) (removed entries d)

/-- An object behind all changes. -/
def patched (plus : Number → Number → Number) (entries : List (List String × Json)) (d : Json) :
    Json :=
  Json.mergeAll (sets entries) (Step.allParents ((sets entries).map Prod.fst))
    (added plus entries d)

@[simp] theorem given_pathParam (path : List String) :
    (Step.pathParam path).given = Step.pathValue path := rfl

@[simp] theorem given_number (n : Number) : (Param.value (.num n)).given = .json (.num n) := rfl

@[simp] theorem given_json (v : Json) : (Param.json v).given = .source v := rfl

theorem gives_removeMembers (hstored : stored = .null ∨ ∃ d, stored = .json d)
    {paths : List (List String)} (hne : paths ≠ []) :
    Step.Gives plus (.removeMembers paths) stored
      (.json (Json.removeAll paths stored.document)) := by
  intro env g n hcolumn hparams
  have hpaths : Supplied env g n (paths.map Step.pathValue) := by
    simpa [Step.params, Function.comp_def] using hparams
  exact Step.means_removeMembers hcolumn.means hstored hne hpaths

theorem gives_addMembers (hstored : stored = .null ∨ ∃ d, stored = .json d)
    {amounts : List (List String × Number)} (hne : amounts ≠ [])
    (hmay : ∀ e ∈ amounts, Step.MayAdd stored.document e.1) :
    Step.Gives plus (.addMembers (amounts.map fun e => (e.1, .num e.2))) stored
      (.json (Json.mergeAll
        (amounts.map fun e => (e.1, .num (plus (Step.numberAt stored.document e.1) e.2)))
        (Step.allParents (amounts.map Prod.fst)) stored.document)) := by
  intro env g n hcolumn hparams
  have hboth : Supplied env g n ((Step.allParents (amounts.map Prod.fst)).map Step.pathValue ++
      amounts.flatMap fun e => [Step.pathValue e.1, .json (.num e.2)]) := by
    simpa [Step.params, Function.comp_def, List.map_flatMap, List.flatMap_map] using hparams
  obtain ⟨habove, hpairs⟩ := supplied_append.1 hboth
  rw [List.length_map] at hpairs
  exact Step.means_addMembers hcolumn.means hstored hne habove hpairs hmay

theorem gives_setMembers (hstored : stored = .null ∨ ∃ d, stored = .json d)
    {values : List (List String × Json)} (hne : values ≠ []) :
    Step.Gives plus (.setMembers values) stored
      (.json (Json.mergeAll values (Step.allParents (values.map Prod.fst)) stored.document)) := by
  intro env g n hcolumn hparams
  have hboth : Supplied env g n ((Step.allParents (values.map Prod.fst)).map Step.pathValue ++
      values.flatMap fun e => [Step.pathValue e.1, .source e.2]) := by
    simpa [Step.params, Function.comp_def, List.map_flatMap] using hparams
  obtain ⟨habove, hpairs⟩ := supplied_append.1 hboth
  rw [List.length_map] at hpairs
  exact Step.means_setMembers hcolumn.means hstored hne habove hpairs

/-- A step that is left out if it has nothing to do. -/
theorem along_optional {α : Type} {s : Step} (as : List α) (f : Json → Json)
    (hstored : stored = .null ∨ ∃ d, stored = .json d)
    (hempty : as = [] → ∀ d, f d = d)
    (hgives : as ≠ [] → s.Gives plus stored (.json (f stored.document))) :
    ∃ after, Along (Step.Gives plus) (if as.isEmpty then [] else [s]) stored after ∧
      after.document = f stored.document ∧ (after = .null ∨ ∃ d, after = .json d) ∧
      (as ≠ [] ∨ (∃ d, stored = .json d) → ∃ d, after = .json d) := by
  cases as with
  | nil =>
    refine ⟨stored, rfl, (hempty rfl _).symm, hstored, ?_⟩
    rintro (hne | hjson)
    · exact absurd rfl hne
    · exact hjson
  | cons a as =>
    exact ⟨_, ⟨_, hgives (List.cons_ne_nil _ _), rfl⟩, rfl, .inr ⟨_, rfl⟩, fun _ => ⟨_, rfl⟩⟩

theorem mergeAll_nil (d : Json) : Json.mergeAll [] (Step.allParents []) d = d := by
  have hnone : Step.allParents [] = [] := by simp [Step.allParents]
  rw [hnone]
  rfl

theorem patchSteps_ofEntries (entries : List (List String × Json)) :
    patchSteps (.ofEntries entries) =
      (if (deletes entries).isEmpty then [] else [.removeMembers (deletes entries)]) ++
      ((if (increments entries).isEmpty then []
        else [.addMembers ((increments entries).map fun e => (e.1, .num e.2))]) ++
      (if (sets entries).isEmpty then [] else [.setMembers (sets entries)])) := by
  have hincrements : (Patch.ofEntries entries).increments =
      (increments entries).map fun e => (e.1, .num e.2) := by
    simp [Patch.ofEntries, increments, Function.comp_def]
  rw [patchSteps, hincrements, List.isEmpty_map]
  simp only [Patch.ofEntries, deletes, sets, List.append_assoc, Option.map_none,
    Option.toList_none, List.append_nil]
  rfl

/-- **The steps of a patch make its changes**, one kind after the other. -/
theorem along_patchSteps (plus : Number → Number → Number)
    (hstored : stored = .null ∨ ∃ d, stored = .json d)
    (hmay : ∀ e ∈ increments entries, Step.MayAdd (removed entries stored.document) e.1) :
    ∃ after, Along (Step.Gives plus) (patchSteps (.ofEntries entries)) stored after ∧
      after.document = patched plus entries stored.document ∧
      (deletes entries ≠ [] ∨ increments entries ≠ [] ∨ sets entries ≠ [] →
        ∃ d, after = .json d) := by
  obtain ⟨first, hfirst, hremoved, hdocument, hjson⟩ :=
    along_optional (deletes entries) (removed entries) hstored
      (fun hnil d => by rw [removed, hnil]; rfl) (gives_removeMembers hstored)
  rw [← hremoved] at hmay
  obtain ⟨second, hsecond, hadded, hdocument', hjson'⟩ :=
    along_optional (increments entries)
      (fun d => Json.mergeAll
        ((increments entries).map fun e => (e.1, .num (plus (Step.numberAt d e.1) e.2)))
        (Step.allParents ((increments entries).map Prod.fst)) d)
      hdocument (fun hnil d => by rw [hnil]; exact mergeAll_nil d)
      (fun hne => gives_addMembers hdocument hne hmay)
  obtain ⟨third, hthird, hset, -, hjson''⟩ :=
    along_optional (sets entries)
      (Json.mergeAll (sets entries) (Step.allParents ((sets entries).map Prod.fst)))
      hdocument' (fun hnil d => by rw [hnil]; exact mergeAll_nil d) (gives_setMembers hdocument')
  refine ⟨third, ?_, ?_, ?_⟩
  · rw [patchSteps_ofEntries]
    exact along_append hfirst (along_append hsecond hthird)
  · rw [hset, hadded, hremoved]
    rfl
  · intro hne
    rcases hne with hdeletes | hincrements | hsets
    · exact hjson'' (.inr (hjson' (.inr (hjson (.inl hdeletes)))))
    · exact hjson'' (.inr (hjson' (.inl hincrements)))
    · exact hjson'' (.inl hsets)

end Update

end DocStore
