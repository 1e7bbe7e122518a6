import DocStore.Proofs.Document.Keys
import DocStore.Schema.Basic
import Mathlib.Data.List.DropRight

/-!
# Names of join tables

The name of a join table holds a field and, behind a colon, the class that owns it.  Fields may
hold colons too, but a class that is no join table itself does not (`Names.IsOwner.colon_not_mem`),
so the owner is what stands behind the last colon (`Names.ownerOf_joinTable`).

So every relation has a join table of its own, and no join table is a class of documents
(`Names.joinTable_apart`).  In particular the join tables of a schema are distinct, and no other
class has one of them (`ClassSchema.nodup_joinTables`, `ClassSchema.disjoint_joinTables`).
-/

namespace DocStore

namespace Names

variable {owner owner' field field' : String}

/-- A class that documents may have: its name is accepted and is not that of a join table. -/
structure IsOwner (name : String) : Prop where
  accepted : checkClass name = .ok ()
  notJoin : isJoinTable name = false

theorem isJoinTable_joinTable (owner field : String) :
    isJoinTable (joinTable owner field) = true := by
  simp [isJoinTable, joinTable, String.toList_append, List.isPrefixOf_iff_prefix]

/-- Such a class has no colon in its name. -/
theorem IsOwner.colon_not_mem (h : IsOwner owner) : ':' ∉ owner.toList := by
  have haccepted := h.accepted
  unfold checkClass at haccepted
  split at haccepted
  · next hname =>
    rw [h.notJoin, Bool.or_false, Bool.or_eq_true] at hname
    rcases hname with hsystem | hplain
    · have hnone : ∀ name ∈ systemClasses, ':' ∉ name.toList := by decide +kernel
      exact hnone owner (List.contains_iff_mem.1 hsystem)
    · unfold isPlainName at hplain
      split at hplain
      · cases hplain
      · next c rest hchars =>
        rw [Bool.and_eq_true, List.all_eq_true] at hplain
        rw [hchars, List.mem_cons, not_or]
        refine ⟨?_, fun hmem => absurd (hplain.2 _ hmem) (by decide)⟩
        rintro rfl
        exact absurd hplain.1 (by decide)
  · cases haccepted

/-- The owner that the name of a join table tells: what stands behind its last colon. -/
def ownerOf (table : String) : String := String.ofList (table.toList.rtakeWhile (· ≠ ':'))

/-- The owner is read back, whatever colons the field holds. -/
theorem ownerOf_joinTable (h : ':' ∉ owner.toList) (field : String) :
    ownerOf (joinTable owner field) = owner := by
  have hchars : (joinTable owner field).toList.reverse =
      owner.toList.reverse ++ ':' :: (joinStart.toList ++ field.toList).reverse := by
    simp [joinTable, String.toList_append]
  have howner : ∀ c ∈ owner.toList.reverse, decide (c ≠ ':') = true := by
    intro c hc
    exact decide_eq_true fun hceq => h (hceq ▸ List.mem_reverse.1 hc)
  rw [ownerOf, List.rtakeWhile, hchars, List.takeWhile_append_of_pos howner,
    List.takeWhile_cons_of_neg (by simp), List.append_nil, List.reverse_reverse,
    String.ofList_toList]

/-- The join tables of one class are told apart by their fields. -/
theorem joinTable_right_inj :
    joinTable owner field = joinTable owner field' ↔ field = field' := by
  simp [joinTable, ← String.toList_inj, String.toList_append]

theorem joinTable_inj (h : IsOwner owner) (h' : IsOwner owner')
    (heq : joinTable owner field = joinTable owner' field') : owner = owner' ∧ field = field' := by
  have howner : owner = owner' := by
    rw [← ownerOf_joinTable h.colon_not_mem field, heq, ownerOf_joinTable h'.colon_not_mem]
  subst howner
  exact ⟨rfl, joinTable_right_inj.1 heq⟩

/-- **No two relations share a join table**, and no join table is a class of documents. -/
theorem joinTable_apart (h : IsOwner owner) (h' : IsOwner owner') (field field' : String) :
    (joinTable owner field = joinTable owner' field' ↔ owner = owner' ∧ field = field') ∧
      ∀ other name, joinTable other name ≠ owner := by
  refine ⟨⟨joinTable_inj h h', ?_⟩, ?_⟩
  · rintro ⟨rfl, rfl⟩
    rfl
  · rintro other name rfl
    have hnot := h.notJoin
    rw [isJoinTable_joinTable] at hnot
    cases hnot

theorem joinTable_apart_fans :
    IsOwner "Club" ∧ IsOwner "_User" ∧
      joinTable "Club" "fans:_User" ≠ joinTable "_User" "fans:Club" ∧
      joinTable "_User" "fans:Club" ≠ "Club" := by
  have hclub : IsOwner "Club" := ⟨by decide +kernel, by decide +kernel⟩
  have huser : IsOwner "_User" := ⟨by decide +kernel, by decide +kernel⟩
  obtain ⟨hsame, hclass⟩ := joinTable_apart hclub huser "fans:_User" "fans:Club"
  exact ⟨hclub, huser, fun heq => absurd (hsame.1 heq).1 (by decide), hclass "_User" "fans:Club"⟩

end Names

namespace ClassSchema

variable {s s' : ClassSchema}

/-- The join tables of a schema are distinct. -/
theorem nodup_joinTables (h : Names.IsOwner s.className) : s.joinTables.Nodup := by
  have hfields : s.relationFields.Nodup :=
    s.fields.nodup_keys.sublist (List.filter_sublist.map _)
  exact hfields.map fun _ _ heq => (Names.joinTable_inj h h heq).2

/-- Two classes have no join table in common. -/
theorem disjoint_joinTables (h : Names.IsOwner s.className) (h' : Names.IsOwner s'.className)
    (hne : s.className ≠ s'.className) : s.joinTables.Disjoint s'.joinTables := by
  intro table hmem hmem'
  obtain ⟨field, -, rfl⟩ := List.mem_map.1 hmem
  obtain ⟨field', -, heq⟩ := List.mem_map.1 hmem'
  exact hne (Names.joinTable_inj h' h heq).1.symm

end ClassSchema

end DocStore
