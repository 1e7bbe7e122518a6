import DocStore.Dict
import DocStore.Document.Key
import DocStore.Proofs.Result
import Mathlib.Data.List.Nodup
import Mathlib.Data.List.Perm.Basic

/-!
# Documents with plain keys

A document whose keys are distinct, hold no dot and name no authentication provider is its own
expansion (`Document.expand_eq_self`, `Document.foldAuthData_eq_self`).  The check of keys accepts
exactly the values whose keys are not reserved, at any depth (`Document.checkKeys_eq_ok_iff`).

In objects with distinct keys the order of the entries does not matter to what is found under a key
(`Object.get?_perm`).
-/

namespace DocStore

/-- In a list with distinct keys, what is found under a key is what stands there. -/
theorem lookup_eq_some_iff {α : Type} {es : List (String × α)} (h : (es.map Prod.fst).Nodup)
    {key : String} {v : α} : es.lookup key = some v ↔ (key, v) ∈ es := by
  induction es with
  | nil => simp
  | cons e rest ih =>
    obtain ⟨k, w⟩ := e
    obtain ⟨hk, hrest⟩ := List.nodup_cons.1 h
    by_cases hkey : key = k
    · subst hkey
      have hother : (key, v) ∉ rest := fun hmem => hk (List.mem_map.2 ⟨_, hmem, rfl⟩)
      simp [hother, eq_comm]
    · have hne : (key == k) = false := by simpa using hkey
      simp [List.lookup_cons, hne, hkey, ih hrest]

theorem Dict.nodup_keys {α : Type} (d : Dict α) : (d.entries.map Prod.fst).Nodup := by
  refine List.pairwise_map.2 (d.sorted.imp fun {a b} hlt heq => ?_)
  rw [heq] at hlt
  exact String.lt_irrefl _ hlt

namespace Object

variable {key : String} {v : Json} {o p : Object}

/-- The keys of an object in order. -/
def keys (o : Object) : List String := o.map Prod.fst

/-- The order of the entries does not matter. -/
theorem get?_perm (hperm : o.Perm p) (h : p.keys.Nodup) (key : String) :
    o.get? key = p.get? key := by
  have ho : o.keys.Nodup := (hperm.map Prod.fst).nodup_iff.2 h
  refine Option.ext fun v => ?_
  rw [get?, get?, lookup_eq_some_iff ho, lookup_eq_some_iff h]
  exact hperm.mem_iff

/-- A new key goes to the end. -/
theorem insert_of_not_mem (h : key ∉ o.keys) (v : Json) : o.insert key v = o ++ [(key, v)] := by
  unfold insert
  induction o with
  | nil => rfl
  | cons e rest ih =>
    obtain ⟨k, w⟩ := e
    obtain ⟨hne, hrest⟩ := not_or.1 (List.mem_cons.not.1 h)
    rw [alter, if_neg (Ne.symm hne), ih hrest]
    rfl

end Object

namespace Key

/-- A key without a dot is its own root. -/
theorem split_of_undotted {key : String} (h : '.' ∉ key.toList) : split key = (key, []) := by
  have hchars : ∀ cs : List Char, '.' ∉ cs → splitChars cs = (cs, []) := by
    intro cs
    induction cs with
    | nil => exact fun _ => rfl
    | cons c cs ih =>
      intro hcs
      obtain ⟨hc, hrest⟩ := not_or.1 (List.mem_cons.not.1 hcs)
      simp [splitChars, ih hrest, Ne.symm hc]
  simp [split, hchars _ h]

/-- A key without a path below it is its own root. -/
theorem split_fst_of_undotted {key : String} (h : (split key).2 = []) :
    (split key).1 = key := by
  have hchars : ∀ cs : List Char, (splitChars cs).2 = [] → (splitChars cs).1 = cs := by
    intro cs
    induction cs with
    | nil => exact fun _ => rfl
    | cons c cs ih =>
      intro hcs
      by_cases hc : c = '.'
      · simp [splitChars, hc] at hcs
      · simp only [splitChars, if_neg hc] at hcs ⊢
        rw [ih hcs]
  have hroot : (splitChars key.toList).1 = key.toList := hchars _ (List.map_eq_nil_iff.1 h)
  simp [split, hroot]

theorem isReserved_eq_false_iff {key : String} :
    isReserved key = false ↔ '$' ∉ key.toList ∧ '.' ∉ key.toList := by
  simp only [isReserved, List.any_eq_false, Bool.or_eq_true, beq_iff_eq, not_or]
  constructor
  · intro h
    exact ⟨fun hmem => (h _ hmem).1 rfl, fun hmem => (h _ hmem).2 rfl⟩
  · rintro ⟨hdollar, hdot⟩ c hc
    exact ⟨fun hceq => hdollar (hceq ▸ hc), fun hceq => hdot (hceq ▸ hc)⟩

/-- A key of a provider is the start of all such keys and the provider's name. -/
theorem provider?_eq_some_iff {key provider : String} :
    provider? key = some provider ↔ key.toList = providerStart ++ provider.toList ∧
      provider.toList ≠ [] ∧ ∀ c ∈ provider.toList, isProviderChar c = true := by
  unfold provider?
  dsimp only
  constructor
  · intro h
    split at h
    · next hname =>
      cases h
      simp only [Bool.and_eq_true, List.isPrefixOf_iff_prefix, Bool.not_eq_true',
        List.isEmpty_eq_false_iff, List.all_eq_true] at hname
      obtain ⟨⟨⟨name, hchars⟩, hne⟩, hall⟩ := hname
      rw [← hchars, List.drop_left] at hne hall ⊢
      rw [String.toList_ofList]
      exact ⟨rfl, hne, hall⟩
    · cases h
  · rintro ⟨hchars, hne, hall⟩
    have hname : providerStart.isPrefixOf key.toList = true := by
      rw [hchars]
      exact List.isPrefixOf_iff_prefix.2 (List.prefix_append _ _)
    rw [if_pos, hchars, List.drop_left, String.ofList_toList]
    rw [hname, hchars, List.drop_left, Bool.true_and, Bool.and_eq_true, List.all_eq_true]
    exact ⟨by simpa using hne, hall⟩

/-- Different keys name different providers. -/
theorem provider?_inj {key key' provider : String} (h : provider? key = some provider)
    (h' : provider? key' = some provider) : key = key' := by
  have hchars := (provider?_eq_some_iff.1 h).1
  rw [← (provider?_eq_some_iff.1 h').1] at hchars
  exact String.toList_inj.1 hchars

end Key

mutual

/-- All keys of a value, at any depth. -/
def Json.allKeys : Json → List String
  | .arr items => Json.itemKeys items
  | .obj entries => Json.entryKeys entries
  | _ => []

/-- All keys of the items of an array. -/
def Json.itemKeys : List Json → List String
  | [] => []
  | v :: rest => v.allKeys ++ Json.itemKeys rest

/-- All keys of entries. -/
def Json.entryKeys : List (String × Json) → List String
  | [] => []
  | (k, v) :: rest => k :: (v.allKeys ++ Json.entryKeys rest)

end

/-- No key in the value is reserved, at any depth. -/
def Json.IsPlain (v : Json) : Prop := ∀ k ∈ v.allKeys, Key.isReserved k = false

instance (v : Json) : Decidable v.IsPlain :=
  inferInstanceAs (Decidable (∀ k ∈ v.allKeys, Key.isReserved k = false))

theorem Json.mem_entryKeys {entries : List (String × Json)} {k : String} :
    k ∈ Json.entryKeys entries ↔ ∃ e ∈ entries, k = e.1 ∨ k ∈ e.2.allKeys := by
  induction entries with
  | nil => simp [Json.entryKeys]
  | cons e rest ih => simp [Json.entryKeys, ih, or_assoc]

/-- An object is plain if its keys and its values are. -/
theorem Json.isPlain_obj {entries : List (String × Json)} :
    (Json.obj entries).IsPlain ↔ ∀ e ∈ entries, Key.isReserved e.1 = false ∧ e.2.IsPlain := by
  simp only [Json.IsPlain, Json.allKeys, Json.mem_entryKeys]
  constructor
  · intro h e he
    exact ⟨h _ ⟨e, he, .inl rfl⟩, fun k hk => h k ⟨e, he, .inr hk⟩⟩
  · rintro h k ⟨e, he, rfl | hk⟩
    · exact (h e he).1
    · exact (h e he).2 k hk

theorem Json.mem_itemKeys {items : List Json} {k : String} :
    k ∈ Json.itemKeys items ↔ ∃ v ∈ items, k ∈ v.allKeys := by
  induction items with
  | nil => simp [Json.itemKeys]
  | cons v rest ih => simp [Json.itemKeys, ih]

/-- An array is plain if its items are. -/
theorem Json.isPlain_arr {items : List Json} :
    (Json.arr items).IsPlain ↔ ∀ v ∈ items, v.IsPlain := by
  simp only [Json.IsPlain, Json.allKeys, Json.mem_itemKeys]
  exact ⟨fun h v hv k hk => h k ⟨v, hv, hk⟩, fun h k ⟨v, hv, hk⟩ => h v hv k hk⟩

namespace Document

variable {o : Object}

theorem expand_eq_self (hkeys : o.keys.Nodup) (hdots : ∀ e ∈ o, '.' ∉ e.1.toList) :
    expand o = o := by
  -- the entries go behind those before them, one by one
  have hfold : ∀ (rest before : Object), (before ++ rest).keys.Nodup →
      (∀ e ∈ rest, '.' ∉ e.1.toList) → rest.foldl expandEntry before = before ++ rest := by
    intro rest
    induction rest with
    | nil => simp
    | cons e rest ih =>
      intro before hnodup hrest
      have hnew : e.1 ∉ before.keys := by
        intro hmem
        rw [Object.keys, List.map_append] at hnodup
        exact List.disjoint_of_nodup_append hnodup hmem (by simp)
      have hsplit := Key.split_of_undotted (hrest e List.mem_cons_self)
      have hentry : expandEntry before e = before ++ [e] := by
        simp [expandEntry, hsplit, Object.insert_of_not_mem hnew]
      rw [List.foldl_cons, hentry, ih (before ++ [e]) (by simpa using hnodup)
        fun f hf => hrest f (List.mem_cons_of_mem _ hf)]
      simp
  exact hfold o [] hkeys hdots

theorem foldAuthData_eq_self (h : ∀ e ∈ o, Key.provider? e.1 = none) : foldAuthData o = o := by
  -- without a provider among the keys nothing is folded
  have hnone : (o.filterMap fun e => (Key.provider? e.1).map fun p => (e.1, p)) = [] := by
    rw [List.filterMap_eq_nil_iff]
    intro e he
    simp [h e he]
  rw [foldAuthData, hnone]
  rfl

mutual

theorem checkKeys_eq_ok_iff : (v : Json) → (checkKeys v = .ok () ↔ v.IsPlain)
  | .null | .bool _ | .num _ | .str _ => by simp [checkKeys, Json.IsPlain, Json.allKeys]
  | .arr items => by
    rw [checkKeys, checkItems_eq_ok_iff items, Json.IsPlain, Json.allKeys]
  | .obj entries => by
    rw [checkKeys, checkEntries_eq_ok_iff entries, Json.IsPlain, Json.allKeys]

theorem checkItems_eq_ok_iff : (items : List Json) →
    (checkItems items = .ok () ↔ ∀ k ∈ Json.itemKeys items, Key.isReserved k = false)
  | [] => by simp [checkItems, Json.itemKeys]
  | v :: rest => by
    have hv := checkKeys_eq_ok_iff v
    have hrest := checkItems_eq_ok_iff rest
    rw [checkItems, Result.bind_eq_ok, Json.itemKeys, List.forall_mem_append, ← hrest]
    constructor
    · rintro ⟨_, hfirst, h⟩
      exact ⟨hv.1 hfirst, h⟩
    · rintro ⟨hfirst, h⟩
      exact ⟨(), hv.2 hfirst, h⟩

theorem checkEntries_eq_ok_iff : (entries : List (String × Json)) →
    (checkEntries entries = .ok () ↔ ∀ k ∈ Json.entryKeys entries, Key.isReserved k = false)
  | [] => by simp [checkEntries, Json.entryKeys]
  | (k, v) :: rest => by
    have hv := checkKeys_eq_ok_iff v
    have hrest := checkEntries_eq_ok_iff rest
    rw [checkEntries, Result.bind_eq_ok, Json.entryKeys, List.forall_mem_cons,
      List.forall_mem_append, ← hrest]
    constructor
    · rintro ⟨_, hfirst, h⟩
      split at h
      · cases h
      · next hk => exact ⟨by simpa using hk, hv.1 hfirst, h⟩
    · rintro ⟨hk, hfirst, h⟩
      exact ⟨(), hv.2 hfirst, by simp [hk, h]⟩

end

end Document

end DocStore
