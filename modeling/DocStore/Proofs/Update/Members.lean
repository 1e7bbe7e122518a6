import DocStore.Proofs.Update.Order
import DocStore.Proofs.Update.Patches

/-!
# What dotted keys do to a column

Dotted keys change members of an object column, and nothing else of it.  `Update.Patched` says what
the members are afterwards: what is deleted is gone, what is increased is a sum, what is set is
there, and objects are above both.  This says what every member is, up to the order of members
(`Update.Patched.sameContent`), so the order of the keys does not count.

`Update.patched_columnAfter` is about the assignments that an update is compiled to.
-/

namespace DocStore

open Sql

open Json (AllApart MayHold)

namespace Update

variable {plus : Number → Number → Number} {entries others : List (List String × Json)}
  {before after d : Json} {stored : Value} {q : List String}

/-- What an update with dotted keys makes of an object. -/
structure Patched (plus : Number → Number → Number) (entries : List (List String × Json))
    (before after : Json) : Prop where
  /-- What is deleted is gone. -/
  deleted : ∀ e ∈ entries, e.2.opTag? = some "Delete" → after.at? e.1 = none
  /-- What is increased was a number, or was missing and counts as zero. -/
  increased : ∀ e ∈ entries, e.2.opTag? = some "Increment" →
    ∃ n, e.2.get? "amount" = some (.num n) ∧
      after.at? e.1 = some (.num (plus (Step.numberAt before e.1) n))
  /-- What is set is the value of the update. -/
  assigned : ∀ e ∈ entries, e.2.opTag? = none → ∃ w, after.at? e.1 = some w ∧ w.SameContent e.2
  /-- What is above a member that is set or increased is an object. -/
  created : ∀ e ∈ entries, e.2.opTag? ≠ some "Delete" → ∀ path, path <+: e.1 → path ≠ e.1 →
    ∃ o, after.at? path = some (.obj o)
  /-- Everything else is as before. -/
  kept : ∀ path, (∀ e ∈ entries, ¬ e.1 <+: path) →
    (∀ e ∈ entries, e.2.opTag? ≠ some "Delete" → ¬ path <+: e.1) →
    after.content path = before.content path

/-- A stored value that an update with dotted keys fits. -/
structure Fits (entries : List (List String × Json)) (stored : Value) : Prop where
  object : stored = .null ∨ ∃ o, stored = .json (.obj o)
  above : ∀ e ∈ entries, e.2.opTag? ≠ some "Delete" → ∀ path, path <+: e.1 → path ≠ e.1 →
    stored.document.at? path = none ∨ ∃ o, stored.document.at? path = some (.obj o)
  number : ∀ e ∈ entries, e.2.opTag? = some "Increment" →
    stored.document.at? e.1 = none ∨ ∃ n, stored.document.at? e.1 = some (.num n)

/-- The members that an update changes are the same afterwards whatever the order of its keys. -/
theorem Patched.sameContent {after' : Json} (h : Patched plus entries before after)
    (h' : Patched plus others before after') (hmem : ∀ e, e ∈ entries ↔ e ∈ others)
    (hoperands : ∀ e ∈ entries, IsOperand e.2) : after.SameContent after' := by
  intro q
  by_cases hinside : ∃ e ∈ entries, e.1 <+: q
  · obtain ⟨e, he, below, rfl⟩ := hinside
    have he' := (hmem e).1 he
    rw [Json.content_append, Json.content_append]
    rcases hoperands e he with hdelete | ⟨hincrement, -⟩ | hset
    · rw [h.deleted e he hdelete, h'.deleted e he' hdelete]
    · obtain ⟨m, hm, hsum⟩ := h.increased e he hincrement
      obtain ⟨n, hn, hsum'⟩ := h'.increased e he' hincrement
      obtain rfl : m = n := by simpa [hm] using hn
      rw [hsum, hsum']
    · obtain ⟨w, hw, hsame⟩ := h.assigned e he hset
      obtain ⟨w', hw', hsame'⟩ := h'.assigned e he' hset
      rw [hw, hw', Option.bind_some, Option.bind_some, hsame, hsame']
  · have houtside : ∀ e ∈ entries, ¬ e.1 <+: q := fun e he hq => hinside ⟨e, he, hq⟩
    by_cases habove : ∃ e ∈ entries, e.2.opTag? ≠ some "Delete" ∧ q <+: e.1
    · obtain ⟨e, he, hkept, hq⟩ := habove
      have hne : q ≠ e.1 := fun heq => houtside e he (heq ▸ List.prefix_refl q)
      rw [Json.content_eq_obj_iff.2 (h.created e he hkept q hq hne),
        Json.content_eq_obj_iff.2 (h'.created e ((hmem e).1 he) hkept q hq hne)]
    · rw [h.kept q houtside fun e he hkept hq => habove ⟨e, he, hkept, hq⟩,
        h'.kept q (fun e he => houtside e ((hmem e).2 he))
          fun e he hkept hq => habove ⟨e, (hmem e).2 he, hkept, hq⟩]

theorem Fits.document (h : Fits entries stored) : ∃ o, stored.document = .obj o := by
  rcases h.object with rfl | ⟨o, rfl⟩
  · exact ⟨[], rfl⟩
  · exact ⟨o, rfl⟩

theorem Fits.mayHold (h : Fits entries stored) {e : List String × Json} (he : e ∈ entries)
    (hkept : e.2.opTag? ≠ some "Delete") (hq : q <+: e.1) (hne : q ≠ e.1) :
    MayHold stored.document q := by
  rw [MayHold, Json.content_eq_none_iff, Json.content_eq_obj_iff]
  exact h.above e he hkept q hq hne

theorem Fits.perm (h : Fits entries stored) (hperm : entries.Perm others) : Fits others stored where
  object := h.object
  above e he := h.above e (hperm.mem_iff.2 he)
  number e he := h.number e (hperm.mem_iff.2 he)

/-! ### Members by kind -/

theorem mem_deletes {p : List String} :
    p ∈ deletes entries ↔ ∃ e ∈ entries, e.2.opTag? = some "Delete" ∧ e.1 = p := by
  simp [deletes, Json.isDelete, and_assoc]

theorem mem_sums {f : List String × Json} : f ∈ sums plus entries d ↔
    ∃ e ∈ entries, e.2.opTag? = some "Increment" ∧
      (e.1, .num (plus (Step.numberAt d e.1) e.2.amount)) = f := by
  simp [sums, increments, Json.isIncrement, and_assoc]

theorem forall_sums {P : List String → Prop}
    (h : ∀ e ∈ entries, e.2.opTag? = some "Increment" → P e.1) :
    ∀ p ∈ (sums plus entries d).map Prod.fst, P p := by
  intro p hp
  obtain ⟨f, hf, rfl⟩ := List.mem_map.1 hp
  obtain ⟨e, he, hincrement, rfl⟩ := mem_sums.1 hf
  exact h e he hincrement

theorem mem_sets {e : List String × Json} : e ∈ sets entries ↔ e ∈ entries ∧ e.2.opTag? = none := by
  simp [sets]

theorem forall_sets {P : List String → Prop}
    (h : ∀ e ∈ entries, e.2.opTag? = none → P e.1) :
    ∀ p ∈ (sets entries).map Prod.fst, P p := by
  intro p hp
  obtain ⟨e, hmem, rfl⟩ := List.mem_map.1 hp
  obtain ⟨he, hset⟩ := mem_sets.1 hmem
  exact h e he hset

theorem sums_paths :
    (sums plus entries d).map Prod.fst = (increments entries).map Prod.fst := by
  simp [sums, Function.comp_def]

theorem allApart_sets (hapart : AllApart (entries.map Prod.fst)) :
    AllApart ((sets entries).map Prod.fst) :=
  hapart.sublist (List.filter_sublist.map _)

theorem allApart_sums (hapart : AllApart (entries.map Prod.fst)) :
    AllApart ((sums plus entries d).map Prod.fst) := by
  rw [sums_paths, increments, List.map_map]
  exact hapart.sublist (List.filter_sublist.map _)

/-- A member that is deleted, and what is inside it, is not changed in another way. -/
theorem not_inside (hapart : AllApart (entries.map Prod.fst)) {e f : List String × Json}
    (he : e ∈ entries) (hf : f ∈ entries) (hne : e.2.opTag? ≠ f.2.opTag?) : ¬ e.1 <+: f.1 :=
  fun hinside => hne (congrArg (fun e => e.2.opTag?) (hapart.eq_of_inside he hf hinside))

section Content

variable (hapart : AllApart (entries.map Prod.fst)) (hpaths : ∀ e ∈ entries, e.1 ≠ [])
  (hroot : d.content [] = some (.obj []))
  (hmay : ∀ e ∈ entries, e.2.opTag? ≠ some "Delete" → ∀ q, q <+: e.1 → q ≠ e.1 → MayHold d q)

include hpaths in
theorem content_removed (q : List String) : (removed entries d).content q =
    if ∃ p ∈ deletes entries, p <+: q then none else d.content q := by
  refine Json.content_removeAll (fun hmem => ?_) d q
  obtain ⟨e, he, -, hempty⟩ := mem_deletes.1 hmem
  exact hpaths e he hempty

/-- Removals do not reach what is not inside something deleted. -/
theorem content_removed_of_outside (hpaths : ∀ e ∈ entries, e.1 ≠ [])
    (h : ∀ e ∈ entries, e.2.opTag? = some "Delete" → ¬ e.1 <+: q) :
    (removed entries d).content q = d.content q := by
  rw [content_removed hpaths, if_neg]
  rintro ⟨p, hp, hinside⟩
  obtain ⟨e, he, hdelete, rfl⟩ := mem_deletes.1 hp
  exact h e he hdelete hinside

include hpaths hroot in
theorem content_removed_nil : (removed entries d).content [] = some (.obj []) := by
  rw [content_removed_of_outside hpaths, hroot]
  exact fun e he _ hinside => hpaths e he (List.prefix_nil.1 hinside)

include hpaths in
theorem mayHold_removed (h : MayHold d q) : MayHold (removed entries d) q := by
  rw [MayHold, content_removed hpaths]
  split
  · exact .inl rfl
  · exact h

include hapart hpaths hroot hmay in
theorem content_added (q : List String) : (added plus entries d).content q =
    Json.merged (sums plus entries (removed entries d)) (removed entries d).content q := by
  refine Json.content_mergeAll (by rw [sums_paths]; exact Step.areParents_allParents _)
    (allApart_sums hapart) (content_removed_nil hpaths hroot) (forall_sums ?_) q
  intro e he hincrement q hq hne
  exact mayHold_removed hpaths (hmay e he (by simp [hincrement]) q hq hne)

include hapart hpaths hroot hmay in
theorem content_patched (q : List String) : (patched plus entries d).content q =
    Json.merged (sets entries) (Json.merged (sums plus entries (removed entries d))
      (removed entries d).content) q := by
  have hadded : (added plus entries d).content =
      Json.merged (sums plus entries (removed entries d)) (removed entries d).content :=
    funext (content_added hapart hpaths hroot hmay)
  rw [← hadded]
  refine Json.content_mergeAll (Step.areParents_allParents _) (allApart_sets hapart) ?_ ?_ q
  · rw [hadded]
    refine Json.merged_above (forall_sums fun e he _ hinside => ?_)
      (.inr (content_removed_nil hpaths hroot))
    exact hpaths e he (List.prefix_nil.1 hinside)
  · refine forall_sets fun e he hset q hq hne => ?_
    have hnot : ∀ p ∈ (sums plus entries (removed entries d)).map Prod.fst, ¬ p <+: q :=
      forall_sums fun f hf hincrement hinside =>
        not_inside hapart hf he (by simp [hset, hincrement]) (hinside.trans hq)
    rw [MayHold, hadded]
    by_cases habove : ∃ p ∈ (sums plus entries (removed entries d)).map Prod.fst, q <+: p
    · exact .inr (Json.merged_above hnot (.inl habove))
    · rw [Json.merged_of_outside hnot fun p hp hinside => habove ⟨p, hp, hinside⟩]
      exact mayHold_removed hpaths (hmay e he (by simp [hset]) q hq hne)

include hapart hpaths hroot hmay

/-- Where nothing is set or increased, all is as the removals left it. -/
theorem content_patched_of_outside (hnot : ∀ e ∈ entries, e.2.opTag? ≠ some "Delete" → ¬ e.1 <+: q)
    (habove : ∀ e ∈ entries, e.2.opTag? ≠ some "Delete" → ¬ q <+: e.1) :
    (patched plus entries d).content q = (removed entries d).content q := by
  rw [content_patched hapart hpaths hroot hmay,
    Json.merged_of_outside (forall_sets fun e he hset => hnot e he (by simp [hset]))
      (forall_sets fun e he hset => habove e he (by simp [hset])),
    Json.merged_of_outside (forall_sums fun e he hincrement => hnot e he (by simp [hincrement]))
      (forall_sums fun e he hincrement => habove e he (by simp [hincrement]))]

/-- Above what is set or increased are objects. -/
theorem content_patched_above
    (hnot : ∀ e ∈ entries, e.2.opTag? ≠ some "Delete" → ¬ e.1 <+: q) {e : List String × Json}
    (he : e ∈ entries) (hoperand : IsOperand e.2) (hkept : e.2.opTag? ≠ some "Delete")
    (hq : q <+: e.1) : (patched plus entries d).content q = some (.obj []) := by
  rw [content_patched hapart hpaths hroot hmay]
  refine Json.merged_above (forall_sets fun f hf hset => hnot f hf (by simp [hset])) ?_
  rcases hoperand with hdelete | ⟨hincrement, -⟩ | hset
  · exact absurd hdelete hkept
  · have hsum : e.1 ∈ (sums plus entries (removed entries d)).map Prod.fst :=
      List.mem_map.2 ⟨_, mem_sums.2 ⟨e, he, hincrement, rfl⟩, rfl⟩
    refine .inr (Json.merged_above (forall_sums fun f hf hincrement => ?_) (.inl ⟨e.1, hsum, hq⟩))
    exact hnot f hf (by simp [hincrement])
  · exact .inl ⟨e.1, List.mem_map_of_mem (mem_sets.2 ⟨he, hset⟩), hq⟩

/-- A sum stands where something was increased. -/
theorem content_patched_of_increment {e : List String × Json} (he : e ∈ entries)
    (hincrement : e.2.opTag? = some "Increment") : (patched plus entries d).content e.1 =
      some (.num (plus (Step.numberAt (removed entries d) e.1) e.2.amount)) := by
  have hsum : (e.1, Json.num (plus (Step.numberAt (removed entries d) e.1) e.2.amount)) ∈
      sums plus entries (removed entries d) := mem_sums.2 ⟨e, he, hincrement, rfl⟩
  rw [content_patched hapart hpaths hroot hmay, Json.merged_of_outside]
  · exact Json.merged_self (allApart_sums hapart) hsum
  · exact forall_sets fun f hf hset => not_inside hapart hf he (by simp [hset, hincrement])
  · exact forall_sets fun f hf hset => not_inside hapart he hf (by simp [hset, hincrement])

end Content

/-! ### The object behind all changes -/

theorem numberAt_eq (d : Json) (p : List String) :
    Step.numberAt d p = match d.content p with
      | some (.num n) => n
      | _ => .int 0 := by
  rw [Step.numberAt, Json.content]
  cases d.at? p with
  | none => rfl
  | some w => cases w <;> rfl

theorem mayAdd_iff {p : List String} : Step.MayAdd d p ↔
    d.content p = none ∨ ∃ n, d.content p = some (.num n) := by
  simp only [Step.MayAdd, Json.content_eq_none_iff, Json.content_eq_num_iff]

variable (hapart : AllApart (entries.map Prod.fst)) (hpaths : ∀ e ∈ entries, e.1 ≠ [])

include hapart hpaths

/-- Removals leave what is increased alone. -/
theorem content_removed_of_increment {e : List String × Json} (he : e ∈ entries)
    (hincrement : e.2.opTag? = some "Increment") :
    (removed entries d).content e.1 = d.content e.1 :=
  content_removed_of_outside hpaths fun f hf hdelete =>
    not_inside hapart hf he (by simp [hdelete, hincrement])

theorem mayAdd_removed (hfits : Fits entries stored) :
    ∀ e ∈ increments entries, Step.MayAdd (removed entries stored.document) e.1 := by
  intro e he
  obtain ⟨f, hf, rfl⟩ := List.mem_map.1 he
  obtain ⟨hf, htag⟩ := List.mem_filter.1 hf
  have hincrement : f.2.opTag? = some "Increment" := by simpa [Json.isIncrement] using htag
  rw [mayAdd_iff, content_removed_of_increment hapart hpaths hf hincrement, ← mayAdd_iff]
  exact hfits.number f hf hincrement

/-- **The changes of a patch make what its keys ask for.** -/
theorem isPatched (plus : Number → Number → Number) (hoperands : ∀ e ∈ entries, IsOperand e.2)
    (hfits : Fits entries stored) :
    Patched plus entries stored.document (patched plus entries stored.document) := by
  obtain ⟨o, hdocument⟩ := hfits.document
  have hroot : stored.document.content [] = some (.obj []) := by rw [hdocument]; rfl
  have hmay : ∀ e ∈ entries, e.2.opTag? ≠ some "Delete" → ∀ q, q <+: e.1 → q ≠ e.1 →
      MayHold stored.document q := fun e he hkept q hq hne => hfits.mayHold he hkept hq hne
  refine { deleted := ?deleted, increased := ?increased, assigned := ?assigned,
           created := ?created, kept := ?kept }
  case deleted =>
    intro e he hdelete
    rw [← Json.content_eq_none_iff, content_patched_of_outside hapart hpaths hroot hmay,
      content_removed hpaths, if_pos ⟨e.1, mem_deletes.2 ⟨e, he, hdelete, rfl⟩, List.prefix_refl _⟩]
    · exact fun f hf hkept => not_inside hapart hf he (by simpa [hdelete] using hkept)
    · exact fun f hf hkept => not_inside hapart he hf (by simpa [hdelete] using hkept.symm)
  case increased =>
    intro e he hincrement
    have hamount : e.2.get? "amount" = some (.num e.2.amount) := by
      simpa [IsOperand, hincrement] using hoperands e he
    have hnumber : Step.numberAt (removed entries stored.document) e.1 =
        Step.numberAt stored.document e.1 := by
      rw [numberAt_eq, numberAt_eq, content_removed_of_increment hapart hpaths he hincrement]
    refine ⟨e.2.amount, hamount, ?_⟩
    rw [← Json.content_eq_num_iff,
      content_patched_of_increment hapart hpaths hroot hmay he hincrement, hnumber]
  case assigned =>
    intro e he hset
    refine Json.exists_sameContent_of_content fun below => ?_
    rw [content_patched hapart hpaths hroot hmay,
      Json.merged_of_mem (allApart_sets hapart) (mem_sets.2 ⟨he, hset⟩)]
  case created =>
    intro e he hkept q hq hne
    refine Json.content_eq_obj_iff.1
      (content_patched_above hapart hpaths hroot hmay ?_ he (hoperands e he) hkept hq)
    intro f hf _ hinside
    obtain rfl := hapart.eq_of_inside hf he (hinside.trans hq)
    exact hne (hq.eq_of_length_le hinside.length_le)
  case kept =>
    intro q houtside habove
    rw [content_patched_of_outside hapart hpaths hroot hmay (fun e he _ => houtside e he) habove,
      content_removed_of_outside hpaths fun e he _ => houtside e he]

omit hapart hpaths

/-! ### Compiled updates -/

theorem entriesOf_ne_nil {column : String} {o : Object}
    (hdotted : ∀ e ∈ o, columnOf e.1 = column → IsDotted e.1) :
    ∀ e ∈ entriesOf column o, e.1 ≠ [] := by
  intro e he
  obtain ⟨f, hf, rfl⟩ := List.mem_map.1 he
  obtain ⟨hf, hcolumn⟩ := List.mem_filter.1 hf
  exact (hdotted f hf (by simpa using hcolumn)).2

theorem entriesOf_perm (column : String) {o o' : Object} (h : o.Perm o') :
    (entriesOf column o).Perm (entriesOf column o') :=
  (h.filter _).map _

/-- Something is done for each operand. -/
theorem kinds_ne_nil (hoperands : ∀ e ∈ entries, IsOperand e.2) (hne : entries ≠ []) :
    deletes entries ≠ [] ∨ increments entries ≠ [] ∨ sets entries ≠ [] := by
  obtain ⟨e, he⟩ := List.exists_mem_of_ne_nil _ hne
  rcases hoperands e he with hdelete | ⟨hincrement, -⟩ | hset
  · exact .inl (List.ne_nil_of_mem (mem_deletes.2 ⟨e, he, hdelete, rfl⟩))
  · refine .inr (.inl (List.ne_nil_of_mem (a := (e.1, e.2.amount)) ?_))
    exact List.mem_map.2 ⟨e, List.mem_filter.2 ⟨he, by simp [Json.isIncrement, hincrement]⟩, rfl⟩
  · exact .inr (.inr (List.ne_nil_of_mem (mem_sets.2 ⟨he, hset⟩)))

variable {schema : ClassSchema} {o : Object} {column : String} {front : List Param} {s : SetClause}

/-- The assignments of an update to a column, whose keys for it are all dotted. -/
theorem columnAfter_of_compile (plus : Number → Number → Number)
    (hdotted : ∀ e ∈ o, columnOf e.1 = column → IsDotted e.1)
    (hapart : AllApart ((entriesOf column o).map Prod.fst))
    (hfits : Fits (entriesOf column o) stored)
    (h : compile schema o (front.length + 1) = .ok s) :
    (∀ e ∈ entriesOf column o, IsOperand e.2) ∧
    ∃ after, s.columnAfter plus column front stored = some after ∧
      (entriesOf column o = [] → after = stored) ∧
      (entriesOf column o ≠ [] →
        ∃ d, after = .json d ∧ Patched plus (entriesOf column o) stored.document d) := by
  obtain ⟨u, hu, h⟩ := Result.bind_eq_ok.1 h
  obtain ⟨made, hmade, h⟩ := Result.bind_eq_ok.1 h
  cases h
  obtain ⟨hown, hoperands⟩ := own_ofObject hdotted hu
  have hchanges := own_changesIn hown hmade
  refine ⟨hoperands, ?_⟩
  rw [Nat.add_sub_cancel]
  by_cases hempty : entriesOf column o = []
  · rw [hempty] at hchanges
    refine ⟨stored, SetClause.columnAfter_ofChanges front ?_, fun _ => rfl,
      fun hne => absurd hempty hne⟩
    rw [hchanges]
    rfl
  · have hpaths := entriesOf_ne_nil hdotted
    have hobject : stored = .null ∨ ∃ d, stored = .json d :=
      hfits.object.imp_right fun ⟨o, ho⟩ => ⟨.obj o, ho⟩
    obtain ⟨after, halong, hdocument, hjson⟩ :=
      along_patchSteps plus hobject (mayAdd_removed hapart hpaths hfits)
    obtain ⟨d, rfl⟩ := hjson (kinds_ne_nil hoperands hempty)
    refine ⟨_, SetClause.columnAfter_ofChanges front ?_, fun hnil => absurd hnil hempty,
      fun _ => ⟨d, rfl, ?_⟩⟩
    · rw [hchanges, Patch.gathered, if_neg (by simpa using hempty)]
      exact ⟨_, halong, rfl⟩
    · have hpatched := isPatched hapart hpaths plus hoperands hfits
      rwa [← hdocument] at hpatched

/-- **An update makes of an object column what its dotted keys ask for**, and the order of the keys
does not count. -/
theorem patched_columnAfter (plus : Number → Number → Number)
    (hdotted : ∀ e ∈ o, columnOf e.1 = column → IsDotted e.1)
    (hapart : AllApart ((entriesOf column o).map Prod.fst))
    (hfits : Fits (entriesOf column o) stored)
    (h : compile schema o (front.length + 1) = .ok s) :
    ∃ after, s.columnAfter plus column front stored = some after ∧
      (entriesOf column o = [] → after = stored) ∧
      (entriesOf column o ≠ [] →
        ∃ d, after = .json d ∧ Patched plus (entriesOf column o) stored.document d) ∧
      ∀ o', o.Perm o' → ∃ s' after', compile schema o' (front.length + 1) = .ok s' ∧
        s'.columnAfter plus column front stored = some after' ∧
          after.document.SameContent after'.document := by
  obtain ⟨hoperands, after, hafter, hidle, hpatched⟩ :=
    columnAfter_of_compile plus hdotted hapart hfits h
  refine ⟨after, hafter, hidle, hpatched, fun o' hperm => ?_⟩
  obtain ⟨s', h'⟩ := exists_compile_of_perm hperm ⟨s, h⟩
  have hentries := entriesOf_perm column hperm
  have hapart' : AllApart ((entriesOf column o').map Prod.fst) :=
    (hentries.map Prod.fst).pairwise hapart fun hpq => ⟨hpq.2, hpq.1⟩
  obtain ⟨-, after', hafter', hidle', hpatched'⟩ :=
    columnAfter_of_compile plus (fun e he => hdotted e (hperm.mem_iff.2 he)) hapart'
      (hfits.perm hentries) h'
  refine ⟨s', after', h', hafter', ?_⟩
  by_cases hempty : entriesOf column o = []
  · have hempty' : entriesOf column o' = [] := (hempty ▸ hentries).nil_eq.symm
    rw [hidle hempty, hidle' hempty']
    exact fun _ => rfl
  · have hne' : entriesOf column o' ≠ [] := fun hnil => hempty (hnil ▸ hentries).eq_nil
    obtain ⟨d, rfl, hd⟩ := hpatched hempty
    obtain ⟨d', rfl, hd'⟩ := hpatched' hne'
    exact hd.sameContent hd' (fun e => hentries.mem_iff) hoperands

/-- A class with an object column. -/
def noteSchema : ClassSchema := (ClassSchema.named "Note").field "meta" .object

/-- An operator that adds two. -/
def addTwo : Json := .obj [("__op", .str "Increment"), ("amount", .num (.int 2))]

/-- A removal, a sum and a new member of one column. -/
def noteChange : Object :=
  [("meta.gone", .obj [("__op", .str "Delete")]),
    ("meta.stats.views", addTwo), ("meta.color", .str "red")]

/-- A value of the column, whose views are not counted yet. -/
def noteMeta : Json :=
  .obj [("gone", .bool true), ("stats", .obj [("likes", .num (.int 1))])]

/-- The sum of two integers. -/
def addIntegers : Number → Number → Number
  | .int m, .int n => .int (m + n)
  | m, _ => m

theorem entriesOf_noteChange : entriesOf "meta" noteChange =
    [(["gone"], .obj [("__op", .str "Delete")]), (["stats", "views"], addTwo),
      (["color"], .str "red")] := by decide +kernel

theorem fits_noteMeta : Fits (entriesOf "meta" noteChange) (.json noteMeta) := by
  have hroot : ∃ o, (Value.json noteMeta).document.at? [] = some (.obj o) := ⟨_, rfl⟩
  have hstats : ∃ o, (Value.json noteMeta).document.at? ["stats"] = some (.obj o) := ⟨_, rfl⟩
  rw [entriesOf_noteChange]
  refine ⟨.inr ⟨_, rfl⟩, ?_, ?_⟩
  all_goals
    simp only [List.forall_mem_cons, List.prefix_cons_iff, List.prefix_nil]
  · refine ⟨fun hkept => absurd rfl hkept, ?_, ?_, by simp⟩
    · rintro - path (rfl | ⟨rest, rfl, rfl | ⟨rest, rfl, rfl⟩⟩) hne
      · exact .inr hroot
      · exact .inr hstats
      · exact absurd rfl hne
    · rintro - path (rfl | ⟨rest, rfl, rfl⟩) hne
      · exact .inr hroot
      · exact absurd rfl hne
  · exact ⟨fun h => absurd h (by decide), fun _ => .inl rfl, fun h => absurd h (by decide), by simp⟩

theorem patched_columnAfter_note :
    ∃ s d, compile noteSchema noteChange 2 = .ok s ∧
      s.columnAfter addIntegers "meta" [.ident "Note"] (.json noteMeta) = some (.json d) ∧
      Patched addIntegers (entriesOf "meta" noteChange) noteMeta d ∧
      d.at? ["gone"] = none ∧ d.at? ["stats", "views"] = some (.num (.int 2)) ∧
      d.content ["stats", "likes"] = some (.num (.int 1)) ∧
      ∃ s' after', compile noteSchema noteChange.reverse 2 = .ok s' ∧
        s'.columnAfter addIntegers "meta" [.ident "Note"] (.json noteMeta) = some after' ∧
          d.SameContent after'.document := by
  have hcompiles : (compile noteSchema noteChange 2).toBool = true := by decide +kernel
  obtain ⟨s, hs⟩ : ∃ s,
      compile noteSchema noteChange ([Param.ident "Note"].length + 1) = .ok s := by
    cases h : compile noteSchema noteChange 2 with
    | error f => simp [h, Except.toBool] at hcompiles
    | ok s => exact ⟨s, rfl⟩
  have hdotted : ∀ e ∈ noteChange, columnOf e.1 = "meta" → IsDotted e.1 := by
    unfold IsDotted
    decide +kernel
  have hapart : AllApart ((entriesOf "meta" noteChange).map Prod.fst) := by
    unfold AllApart Json.Apart
    decide +kernel
  obtain ⟨after, hafter, -, hpatched, horder⟩ :=
    patched_columnAfter addIntegers hdotted hapart fits_noteMeta hs
  obtain ⟨d, rfl, hd⟩ := hpatched (by rw [entriesOf_noteChange]; exact List.cons_ne_nil _ _)
  refine ⟨s, d, hs, hafter, hd, ?_, ?_, ?_, horder _ noteChange.reverse_perm.symm⟩
  · exact hd.deleted _ (by rw [entriesOf_noteChange]; exact List.mem_cons_self) rfl
  · have hviews : (["stats", "views"], addTwo) ∈ entriesOf "meta" noteChange := by
      simp [entriesOf_noteChange]
    obtain ⟨n, hn, hsum⟩ := hd.increased _ hviews rfl
    cases hn
    exact hsum
  · have hlikes := hd.kept ["stats", "likes"]
    simp only [entriesOf_noteChange, List.forall_mem_cons] at hlikes
    refine (hlikes ?_ ?_).trans rfl
    · exact ⟨by decide, by decide, by decide, by simp⟩
    · exact ⟨fun _ => by decide, fun _ => by decide, fun _ => by decide, by simp⟩

end Update

end DocStore
