import DocStore.Proofs.Dict
import DocStore.Proofs.Document.Expansion

/-!
# Folding provider keys

The keys `_auth_data_<provider>` of a document are taken out one at a time, and each removal moves
the last entry into the place that becomes free.  What stands under a key is all that counts: a step
takes one key away, puts its value into the object `authData` and leaves every other key alone
(`Document.get?_foldProvider`), so a run over the keys leads each value to its provider
(`Document.Gathers`).

In the end no provider key is left and nothing is lost (`Document.foldAuthData_folds`).
-/

namespace DocStore

namespace Object

variable {o : Object} {key : String}

/-- What a removal leaves is what stood under other keys. -/
theorem erase_perm (h : o.keys.Nodup) (key : String) :
    (o.erase key).Perm (o.filter fun e => e.1 != key) := by
  induction o with
  | nil => exact .refl _
  | cons e rest ih =>
    obtain ⟨k, v⟩ := e
    obtain ⟨hnew, hrest⟩ := List.nodup_cons.1 h
    rw [erase]
    by_cases hk : k = key
    · -- the key does not occur again, and the last entry takes its place
      subst hk
      have hothers : ∀ e ∈ rest, (e.1 != k) = true := by
        intro e he
        simpa using fun heq : e.1 = k => hnew (List.mem_map.2 ⟨e, he, heq⟩)
      rw [if_pos rfl, List.filter_cons_of_neg (by simp), List.filter_eq_self.2 hothers]
      cases hlast : rest.getLast? with
      | none => rw [List.getLast?_eq_none_iff.1 hlast]
      | some last => exact perm_of_getLast? hlast
    · rw [if_neg hk, List.filter_cons_of_pos (by simpa using hk)]
      exact (ih hrest).cons _

theorem get?_erase (h : o.keys.Nodup) (key other : String) :
    (o.erase key).get? other = if other = key then none else o.get? other := by
  have hkeys : (keys (o.filter fun e => e.1 != key)).Nodup := h.sublist (List.filter_sublist.map _)
  rw [get?_perm (erase_perm h key) hkeys, Json.get?_filter]

theorem get?_insert (o : Object) (key : String) (v : Json) (other : String) :
    (o.insert key v).get? other = if other = key then some v else o.get? other := by
  by_cases hother : other = key
  · rw [if_pos hother, hother, get?_insert_self]
  · rw [if_neg hother, get?_insert_of_ne o hother]

/-- Put entries into an object, one after the other. -/
def insertAll (o entries : Object) : Object := entries.foldl (fun o e => o.insert e.1 e.2) o

/-- Of entries with different keys all are found again. -/
theorem get?_insertAll {entries : Object} (h : entries.keys.Nodup) (o : Object) (key : String) :
    (o.insertAll entries).get? key = (entries.get? key).or (o.get? key) := by
  unfold insertAll
  induction entries generalizing o with
  | nil => rfl
  | cons e rest ih =>
    obtain ⟨hnew, hrest⟩ := List.nodup_cons.1 h
    have hcons : get? (e :: rest) key =
        (if key = e.1 then some e.2 else none).or (rest.lookup key) :=
      Dict.lookup_cons_eq_or e rest key
    rw [List.foldl_cons, ih hrest, get?_insert, hcons, get?]
    by_cases hkey : key = e.1
    · simp [hkey, Dict.lookup_eq_none hnew]
    · simp [hkey]

theorem get?_eq_none_iff : o.get? key = none ↔ key ∉ o.keys := by
  refine ⟨fun h hmem => ?_, Dict.lookup_eq_none⟩
  obtain ⟨e, he, rfl⟩ := List.mem_map.1 hmem
  simpa using List.lookup_eq_none_iff.1 h e he

theorem insertAll_concat (o entries : Object) (e : String × Json) :
    o.insertAll (entries ++ [e]) = (o.insertAll entries).insert e.1 e.2 :=
  List.foldl_append

theorem mem_keys_concat {e : String × Json} : key ∈ keys (o ++ [e]) ↔ key ∈ o.keys ∨ key = e.1 := by
  simp [keys]

end Object

namespace Document

variable {o f : Object} {key provider : String} {v : Json}

/-! ### One key -/

theorem foldProvider_eq (hv : f.get? key = some v) (provider : String) :
    foldProvider f key provider = (f.erase key).alter
      (fun old => .obj ((members old).insert provider v)) "authData" := by
  rw [foldProvider, hv]
  dsimp only
  congr 1
  funext old
  match old with
  | some (.obj providers) => rfl
  | none | some .null | some (.bool _) | some (.num _) | some (.str _) | some (.arr _) => rfl

/-- **A step** takes one key away and puts its value into `authData`. -/
theorem get?_foldProvider (hf : f.keys.Nodup) (hv : f.get? key = some v)
    (hkey : key ≠ "authData") (provider other : String) :
    (foldProvider f key provider).get? other =
      if other = "authData" then
        some (.obj ((members (f.get? "authData")).insert provider v))
      else if other = key then none
      else f.get? other := by
  rw [foldProvider_eq hv]
  by_cases hother : other = "authData"
  · rw [if_pos hother, hother, Object.get?_alter_self, Object.get?_erase hf, if_neg (Ne.symm hkey)]
  · rw [if_neg hother, Object.get?_alter_of_ne _ hother, Object.get?_erase hf]

/-! ### All keys -/

/-- The values of the provider keys, under the names of the providers. -/
def providerEntries (o : Object) : Object :=
  o.filterMap fun e => (Key.provider? e.1).map fun provider => (provider, e.2)

theorem providerEntries_eq_nil_iff :
    providerEntries o = [] ↔ ∀ key ∈ o.keys, Key.provider? key = none := by
  simp [providerEntries, List.filterMap_eq_nil_iff, Object.keys]

/-- `authData` with the values of provider keys put into what it held before. -/
def withProviders (o before : Object) : Option Json :=
  if providerEntries before = [] then o.get? "authData"
  else some (.obj ((members (o.get? "authData")).insertAll (providerEntries before)))

/-- What a run has made of an object when it has come behind some of its entries. -/
structure Gathers (o before f : Object) : Prop where
  /-- Keys are distinct at every time. -/
  distinct : f.keys.Nodup
  /-- The provider keys so far are gone, all others have their values. -/
  others : ∀ key, key ≠ "authData" → f.get? key =
    if key ∈ before.keys ∧ (Key.provider? key).isSome = true then none else o.get? key
  /-- Their values are in `authData`. -/
  gathered : f.get? "authData" = withProviders o before

theorem gathers_nil (h : o.keys.Nodup) : Gathers o [] o where
  distinct := h
  others key _ := by simp [Object.keys]
  gathered := rfl

/-- An entry whose key names no provider is left where it is. -/
theorem Gathers.skip {before : Object} {e : String × Json} (h : Gathers o before f)
    (he : Key.provider? e.1 = none) : Gathers o (before ++ [e]) f where
  distinct := h.distinct
  others key hkey := by
    rw [h.others key hkey]
    by_cases heq : key = e.1
    · simp [heq, he]
    · simp only [Object.mem_keys_concat, heq, or_false]
  gathered := by
    have hentries : providerEntries (before ++ [e]) = providerEntries before := by
      simp [providerEntries, he]
    rw [h.gathered, withProviders, withProviders, hentries]

/-- An entry whose key names a provider is moved. -/
theorem Gathers.move {before : Object} {e : String × Json} (h : Gathers o before f)
    (hnew : e.1 ∉ before.keys) (hvalue : o.get? e.1 = some e.2)
    (he : Key.provider? e.1 = some provider) :
    Gathers o (before ++ [e]) (foldProvider f e.1 provider) := by
  have hkey : e.1 ≠ "authData" := by
    intro heq
    rw [heq] at he
    cases he
  have hv : f.get? e.1 = some e.2 := by
    rw [h.others e.1 hkey, if_neg fun hmem => hnew hmem.1, hvalue]
  have hentries : providerEntries (before ++ [e]) =
      providerEntries before ++ [(provider, e.2)] := by
    simp [providerEntries, he]
  refine ⟨nodup_keys_foldProvider h.distinct _ _, fun key hother => ?_, ?_⟩
  · rw [get?_foldProvider h.distinct hv hkey, if_neg hother, h.others key hother]
    by_cases heq : key = e.1
    · simp [Object.mem_keys_concat, heq, he]
    · simp only [Object.mem_keys_concat, heq, or_false, if_false]
  · rw [get?_foldProvider h.distinct hv hkey, if_pos rfl, h.gathered, withProviders, withProviders,
      hentries, if_neg (List.append_ne_nil_of_right_ne_nil _ (List.cons_ne_nil _ _)),
      Object.insertAll_concat]
    split
    · next hnone =>
      rw [hnone]
      rfl
    · rfl

/-- **A run over the rest of the entries** moves the values of all provider keys. -/
theorem Gathers.foldl {before rest : Object} (h : Gathers o before f) (hkeys : o.keys.Nodup)
    (ho : before ++ rest = o) :
    Gathers o o ((rest.filterMap fun e => (Key.provider? e.1).map fun p => (e.1, p)).foldl
      (fun f e => foldProvider f e.1 e.2) f) := by
  induction rest generalizing before f with
  | nil =>
    rw [List.append_nil] at ho
    exact ho ▸ h
  | cons e rest ih =>
    have hnext : (before ++ [e]) ++ rest = o := by simpa using ho
    cases he : Key.provider? e.1 with
    | none =>
      rw [List.filterMap_cons_none (by rw [he]; rfl)]
      exact ih (h.skip he) hnext
    | some provider =>
      have hmem : e ∈ o := by simp [← ho]
      have hnew : e.1 ∉ before.keys := by
        intro hold
        rw [← ho, Object.keys, List.map_append] at hkeys
        exact List.disjoint_of_nodup_append hkeys hold (by simp)
      rw [List.filterMap_cons_some (by rw [he]; rfl)]
      exact ih (h.move hnew ((lookup_eq_some_iff hkeys).2 hmem) he) hnext

theorem gathers_foldAuthData (h : o.keys.Nodup) : Gathers o o (foldAuthData o) :=
  (gathers_nil h).foldl h (List.nil_append o)

/-! ### The result -/

theorem nodup_keys_providerEntries (h : o.keys.Nodup) : (providerEntries o).keys.Nodup := by
  have hkeys : (providerEntries o).keys = o.keys.filterMap Key.provider? := by
    rw [Object.keys, Object.keys, providerEntries, List.map_filterMap, List.filterMap_map]
    refine congrFun (congrArg _ (funext fun e => ?_)) o
    rw [Option.map_map]
    exact Option.map_id'
  rw [hkeys]
  exact h.filterMap fun _ _ _ => Key.provider?_inj

theorem mem_providerEntries {name : String} :
    (name, v) ∈ providerEntries o ↔ ∃ key, Key.provider? key = some name ∧ (key, v) ∈ o := by
  rw [providerEntries, List.mem_filterMap]
  constructor
  · rintro ⟨⟨key, w⟩, hmem, hentry⟩
    obtain ⟨provider, hkey, heq⟩ := Option.map_eq_some_iff.1 hentry
    cases heq
    exact ⟨key, hkey, hmem⟩
  · rintro ⟨key, hkey, hmem⟩
    exact ⟨(key, v), hmem, by rw [hkey]; rfl⟩

/-- Under a provider stands the value of its key. -/
theorem get?_providerEntries (h : o.keys.Nodup) (hkey : Key.provider? key = some provider) :
    (providerEntries o).get? provider = o.get? key := by
  refine Option.ext fun v => ?_
  rw [Object.get?, Object.get?, lookup_eq_some_iff (nodup_keys_providerEntries h),
    lookup_eq_some_iff h, mem_providerEntries]
  constructor
  · rintro ⟨other, hother, hmem⟩
    exact Key.provider?_inj hkey hother ▸ hmem
  · exact fun hmem => ⟨key, hkey, hmem⟩

theorem get?_providerEntries_eq_none {name : String}
    (h : ∀ key ∈ o.keys, Key.provider? key ≠ some name) : (providerEntries o).get? name = none := by
  rw [Object.get?_eq_none_iff]
  intro hmem
  obtain ⟨⟨_, v⟩, hentry, rfl⟩ := List.mem_map.1 hmem
  obtain ⟨key, hkey, hmem⟩ := mem_providerEntries.1 hentry
  exact h key (List.mem_map_of_mem hmem) hkey

theorem Gathers.keyless (h : Gathers o o f) (hmem : key ∈ f.keys) : Key.provider? key = none := by
  by_contra hsome
  have hne : key ≠ "authData" := by
    rintro rfl
    exact hsome rfl
  have hnone : f.get? key = none := by
    rw [h.others key hne]
    split
    · rfl
    · next hnot =>
      have hkey : (Key.provider? key).isSome = true := Option.isSome_iff_ne_none.2 hsome
      exact Object.get?_eq_none_iff.2 fun hold => hnot ⟨hold, hkey⟩
  exact Object.get?_eq_none_iff.1 hnone hmem

/-- There is a key of a provider. -/
def HasProviderKey (o : Object) : Prop := ∃ key ∈ o.keys, (Key.provider? key).isSome = true

theorem Gathers.moved (h : Gathers o o f) (hsome : HasProviderKey o) : f.get? "authData" =
    some (.obj ((members (o.get? "authData")).insertAll (providerEntries o))) := by
  obtain ⟨key, hmem, hkey⟩ := hsome
  have hne : providerEntries o ≠ [] := by
    intro hnil
    rw [providerEntries_eq_nil_iff.1 hnil key hmem] at hkey
    cases hkey
  rw [h.gathered, withProviders, if_neg hne]

theorem Gathers.at?_authData (h : Gathers o o f) (hkeys : o.keys.Nodup) (hsome : HasProviderKey o)
    (name : String) : (Json.obj f).at? ["authData", name] =
      ((providerEntries o).get? name).or ((members (o.get? "authData")).get? name) := by
  simp [Json.at?, h.moved hsome, Object.get?_insertAll (nodup_keys_providerEntries hkeys)]

/-- What an object is when the provider keys of another are folded. -/
structure Folds (o folded : Object) : Prop where
  /-- No key occurs twice. -/
  distinct : folded.keys.Nodup
  /-- No key is that of a provider. -/
  keyless : ∀ key ∈ folded.keys, Key.provider? key = none
  /-- Every other key has its value. -/
  kept : ∀ key, Key.provider? key = none → key ≠ "authData" → folded.get? key = o.get? key
  /-- If there was a key of a provider, all their values are put into the former `authData`. -/
  moved : HasProviderKey o → folded.get? "authData" =
    some (.obj ((members (o.get? "authData")).insertAll (providerEntries o)))
  /-- Each provider has the value of its key there. -/
  found : ∀ key ∈ o.keys, ∀ provider, Key.provider? key = some provider →
    (Json.obj folded).at? ["authData", provider] = o.get? key
  /-- A member that no key names is as it was. -/
  former : HasProviderKey o → ∀ name, (∀ key ∈ o.keys, Key.provider? key ≠ some name) →
    (Json.obj folded).at? ["authData", name] = (members (o.get? "authData")).get? name
  /-- If there was none, nothing has changed. -/
  untouched : ¬ HasProviderKey o → folded = o

theorem foldAuthData_of_keyless (h : ∀ key ∈ o.keys, Key.provider? key = none) :
    foldAuthData o = o :=
  foldAuthData_eq_self fun _ he => h _ (List.mem_map_of_mem he)

theorem folds_foldAuthData (h : o.keys.Nodup) : Folds o (foldAuthData o) where
  distinct := (gathers_foldAuthData h).distinct
  keyless _ := (gathers_foldAuthData h).keyless
  kept key hkey hne := by
    rw [(gathers_foldAuthData h).others key hne, hkey, if_neg (by simp)]
  moved := (gathers_foldAuthData h).moved
  found key hmem provider hkey := by
    have hvalue : o.get? key ≠ none := fun hnone => Object.get?_eq_none_iff.1 hnone hmem
    obtain ⟨v, hv⟩ := Option.ne_none_iff_exists'.1 hvalue
    rw [(gathers_foldAuthData h).at?_authData h ⟨key, hmem, by rw [hkey]; rfl⟩,
      get?_providerEntries h hkey, hv, Option.some_or]
  former hsome name hname := by
    rw [(gathers_foldAuthData h).at?_authData h hsome, get?_providerEntries_eq_none hname,
      Option.none_or]
  untouched hnone := foldAuthData_of_keyless fun key hmem => by
    by_contra hsome
    exact hnone ⟨key, hmem, Option.isSome_iff_ne_none.2 hsome⟩

/-- **Folding provider keys loses nothing**, and folding again changes nothing. -/
theorem foldAuthData_folds (h : o.keys.Nodup) :
    Folds o (foldAuthData o) ∧ foldAuthData (foldAuthData o) = foldAuthData o :=
  ⟨folds_foldAuthData h, foldAuthData_of_keyless (folds_foldAuthData h).keyless⟩

/-- A document with two provider keys around its `authData`, which knows one of the providers. -/
def linkedAccount : Object :=
  [("_auth_data_phone", .obj [("id", .str "1")]),
    ("authData", .obj [("mail", .null), ("phone", .str "old")]),
    ("name", .str "Ada"), ("_auth_data_key", .null)]

theorem foldAuthData_folds_linkedAccount :
    linkedAccount.keys.Nodup ∧
      (Json.obj (foldAuthData linkedAccount)).at? ["authData", "phone"] =
        some (.obj [("id", .str "1")]) ∧
      (Json.obj (foldAuthData linkedAccount)).at? ["authData", "key"] = some .null ∧
      (Json.obj (foldAuthData linkedAccount)).at? ["authData", "mail"] = some .null ∧
      (foldAuthData linkedAccount).get? "name" = some (.str "Ada") ∧
      foldAuthData (foldAuthData linkedAccount) = foldAuthData linkedAccount := by
  have hkeys : linkedAccount.keys.Nodup := by decide +kernel
  have hsome : HasProviderKey linkedAccount :=
    ⟨"_auth_data_phone", by decide +kernel, by decide +kernel⟩
  have hmail : ∀ key ∈ linkedAccount.keys, Key.provider? key ≠ some "mail" := by decide +kernel
  obtain ⟨hfolds, hagain⟩ := foldAuthData_folds hkeys
  have hphone := hfolds.found "_auth_data_phone" (by decide +kernel) "phone" (by decide +kernel)
  have hkey := hfolds.found "_auth_data_key" (by decide +kernel) "key" (by decide +kernel)
  exact ⟨hkeys, hphone, hkey, hfolds.former hsome "mail" hmail,
    hfolds.kept "name" (by decide +kernel) (by decide +kernel), hagain⟩

end Document

end DocStore
