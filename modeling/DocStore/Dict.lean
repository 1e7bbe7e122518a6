/-!
# Finite maps ordered by key

A `Dict` lists its entries with strictly increasing keys, so that two maps with the same entries
are equal as values and are written out in one order.  Keys are compared by code points.
-/

namespace DocStore

/-- A finite map from strings, ordered by key. -/
structure Dict (α : Type) where
  entries : List (String × α)
  sorted : entries.Pairwise fun a b => a.1 < b.1
  deriving DecidableEq

namespace Dict

variable {α : Type}

/-- The map without entries. -/
def empty : Dict α := ⟨[], .nil⟩

instance : Inhabited (Dict α) := ⟨empty⟩

/-- The value under a key. -/
def get? (d : Dict α) (key : String) : Option α := d.entries.lookup key

/-- The keys in order. -/
def keys (d : Dict α) : List String := d.entries.map (·.1)

/-- Change the value under a key of a sorted list, or put a first value at the key's place. -/
def alterEntries (f : Option α → α) (key : String) : List (String × α) → List (String × α)
  | [] => [(key, f none)]
  | (k, v) :: rest =>
    if key = k then (k, f (some v)) :: rest
    else if key < k then (key, f none) :: (k, v) :: rest
    else (k, v) :: alterEntries f key rest

theorem mem_alterEntries {f : Option α → α} {key : String} {es : List (String × α)}
    {e : String × α} (h : e ∈ alterEntries f key es) : e.1 = key ∨ ∃ e' ∈ es, e.1 = e'.1 := by
  induction es with
  | nil => simp [alterEntries] at h; simp [h]
  | cons head rest ih =>
    obtain ⟨k, v⟩ := head
    unfold alterEntries at h
    split at h
    · rename_i hk
      rcases List.mem_cons.1 h with rfl | h
      · exact .inl hk.symm
      · exact .inr ⟨e, List.mem_cons_of_mem _ h, rfl⟩
    · split at h
      · rcases List.mem_cons.1 h with rfl | h
        · exact .inl rfl
        · exact .inr ⟨e, h, rfl⟩
      · rcases List.mem_cons.1 h with rfl | h
        · exact .inr ⟨_, List.mem_cons_self, rfl⟩
        · rcases ih h with h | ⟨e', he', h⟩
          · exact .inl h
          · exact .inr ⟨e', List.mem_cons_of_mem _ he', h⟩

/-- Of two different keys, one comes first. -/
theorem lt_of_ne_of_not_lt {a b : String} (hne : a ≠ b) (h : ¬ a < b) : b < a :=
  String.not_le.1 fun hle => hne (String.le_antisymm hle (String.not_lt.1 h))

theorem pairwise_alterEntries {f : Option α → α} {key : String} {es : List (String × α)}
    (h : es.Pairwise fun a b => a.1 < b.1) :
    (alterEntries f key es).Pairwise fun a b => a.1 < b.1 := by
  induction es with
  | nil => simp [alterEntries]
  | cons head rest ih =>
    obtain ⟨k, v⟩ := head
    obtain ⟨hhead, hrest⟩ := List.pairwise_cons.1 h
    unfold alterEntries
    split
    · exact List.pairwise_cons.2 ⟨hhead, hrest⟩
    · rename_i hne
      split
      · rename_i hlt
        refine List.pairwise_cons.2 ⟨fun e he => ?_, h⟩
        rcases List.mem_cons.1 he with rfl | he
        · exact hlt
        · exact String.lt_trans hlt (hhead e he)
      · rename_i hnlt
        refine List.pairwise_cons.2 ⟨fun e he => ?_, ih hrest⟩
        rcases mem_alterEntries he with he | ⟨e', he', he⟩
        · rw [he]; exact lt_of_ne_of_not_lt hne hnlt
        · rw [he]; exact hhead e' he'

/-- Change the value under a key, or put a first value there. -/
def alter (d : Dict α) (key : String) (f : Option α → α) : Dict α :=
  ⟨alterEntries f key d.entries, pairwise_alterEntries d.sorted⟩

theorem lookup_alterEntries_self (f : Option α → α) (key : String) {es : List (String × α)}
    (h : es.Pairwise fun a b => a.1 < b.1) :
    (alterEntries f key es).lookup key = some (f (es.lookup key)) := by
  induction es with
  | nil => simp [alterEntries]
  | cons e rest ih =>
    obtain ⟨k, v⟩ := e
    obtain ⟨hhead, hrest⟩ := List.pairwise_cons.1 h
    simp only [alterEntries]
    split
    · next hk =>
      subst hk
      simp
    · next hk =>
      have hne : (key == k) = false := by simpa using hk
      split
      · next hlt =>
        have habsent : rest.lookup key = none := by
          rw [List.lookup_eq_none_iff]
          intro e he
          have : key < e.1 := String.lt_trans hlt (hhead e he)
          simpa using fun h => String.lt_irrefl _ (h ▸ this)
        simp [List.lookup_cons, hne, habsent]
      · simpa [List.lookup_cons, hne] using ih hrest

theorem lookup_alterEntries_of_ne (f : Option α → α) {key other : String} (h : other ≠ key)
    (es : List (String × α)) : (alterEntries f key es).lookup other = es.lookup other := by
  have hne : (other == key) = false := by simpa using h
  induction es with
  | nil => simp [alterEntries, List.lookup_cons, hne]
  | cons e rest ih =>
    obtain ⟨k, v⟩ := e
    simp only [alterEntries]
    split
    · next hk =>
      subst hk
      simp [List.lookup_cons, hne]
    · split
      · simp [List.lookup_cons, hne]
      · simp only [List.lookup_cons, ih]

theorem get?_alter_self (d : Dict α) (key : String) (f : Option α → α) :
    (d.alter key f).get? key = some (f (d.get? key)) :=
  lookup_alterEntries_self f key d.sorted

theorem get?_alter_of_ne (d : Dict α) {key other : String} (h : other ≠ key)
    (f : Option α → α) : (d.alter key f).get? other = d.get? other :=
  lookup_alterEntries_of_ne f h d.entries

/-- Put a value under a key. -/
def insert (d : Dict α) (key : String) (value : α) : Dict α := d.alter key fun _ => value

theorem get?_insert_self (d : Dict α) (key : String) (value : α) :
    (d.insert key value).get? key = some value :=
  d.get?_alter_self key _

theorem get?_insert_of_ne (d : Dict α) {key other : String} (h : other ≠ key) (value : α) :
    (d.insert key value).get? other = d.get? other :=
  d.get?_alter_of_ne h _

/-- Put a value under a key that is not present. -/
def insertIfNew (d : Dict α) (key : String) (value : α) : Dict α :=
  d.alter key fun old => old.getD value

/-- Remove a key. -/
def erase (d : Dict α) (key : String) : Dict α :=
  ⟨d.entries.filter (·.1 != key), d.sorted.filter _⟩

/-- The map with the given entries; of two with one key the later counts. -/
def ofList (entries : List (String × α)) : Dict α :=
  entries.foldl (fun d e => d.insert e.1 e.2) empty

end Dict

end DocStore
