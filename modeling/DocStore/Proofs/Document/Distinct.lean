import DocStore.Proofs.Document.Keys
import Mathlib.Data.List.Perm.Subperm

/-!
# Documents with distinct keys

Putting a value under a key and removing a key leave the keys of an object distinct
(`Object.nodup_keys_alter`, `Object.nodup_keys_erase`).  So the keys of a document are distinct when
its dotted keys have been expanded, whatever they were before, and stay so when its provider keys
are folded (`Document.nodup_keys_expand`, `Document.nodup_keys_foldAuthData`).
-/

namespace DocStore

variable {o : Object} {key : String}

/-- The last one may as well stand first. -/
theorem perm_of_getLast? {α : Type} {l : List α} {a : α} (h : l.getLast? = some a) :
    (a :: l.dropLast).Perm l := by
  have hmoved := List.perm_append_singleton a l.dropLast
  rw [List.dropLast_append_getLast? a h] at hmoved
  exact hmoved.symm

namespace Object

/-- What is left after a removal stood there before. -/
theorem erase_subperm (key : String) (o : Object) : (o.erase key).Subperm o := by
  induction o with
  | nil => exact .refl _
  | cons entry rest ih =>
    obtain ⟨k, v⟩ := entry
    rw [erase]
    split
    · -- the last entry takes the place of the removed one
      cases hlast : rest.getLast? with
      | none => exact List.nil_subperm
      | some last => exact (perm_of_getLast? hlast).subperm.cons_right _
    · exact (List.subperm_cons _).2 ih

theorem nodup_keys_erase (h : o.keys.Nodup) (key : String) : (o.erase key).keys.Nodup := by
  obtain ⟨left, hperm, hsublist⟩ := erase_subperm key o
  exact (hperm.map Prod.fst).nodup_iff.1 (h.sublist (hsublist.map Prod.fst))

theorem keys_alter (f : Option Json → Json) (key : String) (o : Object) :
    (o.alter f key).keys = if key ∈ o.keys then o.keys else o.keys ++ [key] := by
  induction o with
  | nil => rfl
  | cons entry rest ih =>
    obtain ⟨k, v⟩ := entry
    rw [alter]
    by_cases hk : k = key
    · subst hk
      simp [keys]
    · have hcons : ∀ (v : Json) (rest : Object), keys ((k, v) :: rest) = k :: rest.keys :=
        fun _ _ => rfl
      rw [if_neg hk, hcons, hcons, ih]
      by_cases hmem : key ∈ keys rest
      · rw [if_pos hmem, if_pos (List.mem_cons_of_mem k hmem)]
      · rw [if_neg hmem, if_neg (List.not_mem_cons_of_ne_of_not_mem (Ne.symm hk) hmem)]
        rfl

theorem nodup_keys_alter (h : o.keys.Nodup) (f : Option Json → Json) (key : String) :
    (o.alter f key).keys.Nodup := by
  rw [keys_alter]
  split
  · exact h
  · next hnew =>
    exact List.nodup_append'.2 ⟨h, List.nodup_singleton key, List.disjoint_singleton.2 hnew⟩

end Object

namespace Document

theorem nodup_keys_place (path : List String) (v : Option Json) (h : o.keys.Nodup) :
    (place path v o).keys.Nodup := by
  match path, v with
  | [], _ => exact h
  | [_], some _ => exact Object.nodup_keys_alter h _ _
  | [_], none => exact Object.nodup_keys_erase h _
  | _ :: _ :: _, _ => exact Object.nodup_keys_alter h _ _

theorem nodup_keys_expandEntry (h : o.keys.Nodup) (entry : String × Json) :
    (expandEntry o entry).keys.Nodup := by
  unfold expandEntry
  split
  · exact Object.nodup_keys_alter h _ _
  · exact nodup_keys_place _ _ h

/-- The keys of an expanded document are distinct. -/
theorem nodup_keys_expand (o : Object) : (expand o).keys.Nodup :=
  List.foldlRecOn (motive := fun out : Object => out.keys.Nodup) o expandEntry
    List.nodup_nil fun _ hout entry _ => nodup_keys_expandEntry hout entry

theorem nodup_keys_foldProvider (h : o.keys.Nodup) (key provider : String) :
    (foldProvider o key provider).keys.Nodup := by
  unfold foldProvider
  split
  · exact h
  · exact Object.nodup_keys_alter (Object.nodup_keys_erase h key) _ _

theorem nodup_keys_foldAuthData (h : o.keys.Nodup) : (foldAuthData o).keys.Nodup :=
  List.foldlRecOn (motive := fun out : Object => out.keys.Nodup) _ _ h
    fun _ hout entry _ => nodup_keys_foldProvider hout entry.1 entry.2

end Document

end DocStore
