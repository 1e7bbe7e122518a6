import DocStore.Proofs.Document.Distinct
import DocStore.Proofs.Json.Members

/-!
# Expanding dotted keys

A dotted key stands for the path of its parts (`Key.segments`).  `Document.place` puts a value at a
path, and what it changes is known place by place: at the path and below it stands the value, above
it stand objects, and all other places are as before.

So entries whose paths are apart do not disturb each other.  `Document.Holds` says what an object
holds when they are all in it, a step of the expansion keeps it (`Document.Holds.expandEntry`), and
it leaves nothing open but the order of members (`Document.expand_holds`).
-/

namespace DocStore

namespace Key

/-- The names on the path that a key stands for: its parts between dots. -/
def segments (key : String) : List String := (key.toList.splitOn '.').map String.ofList

theorem splitOn_eq_splitChars (cs : List Char) :
    cs.splitOn '.' = (splitChars cs).1 :: (splitChars cs).2 := by
  induction cs with
  | nil => rfl
  | cons c cs ih =>
    rw [List.splitOn_cons_eq_if_modifyHead, ih]
    by_cases hc : c = '.' <;> simp [splitChars, hc]

/-- The path of a key begins with its root. -/
theorem segments_eq (key : String) : segments key = (split key).1 :: (split key).2 := by
  rw [segments, splitOn_eq_splitChars]
  rfl

theorem not_mem_splitChars (cs : List Char) :
    '.' ∉ (splitChars cs).1 ∧ ∀ part ∈ (splitChars cs).2, '.' ∉ part := by
  induction cs with
  | nil => simp [splitChars]
  | cons c cs ih =>
    obtain ⟨hfirst, hothers⟩ := ih
    by_cases hc : c = '.'
    · simpa [splitChars, hc] using ⟨hfirst, hothers⟩
    · simpa [splitChars, hc, Ne.symm hc] using ⟨hfirst, hothers⟩

/-- No name on a path holds a dot. -/
theorem undotted_segments {key name : String} (h : name ∈ segments key) : '.' ∉ name.toList := by
  obtain ⟨hfirst, hothers⟩ := not_mem_splitChars key.toList
  rw [segments, splitOn_eq_splitChars] at h
  obtain ⟨part, hpart, rfl⟩ := List.mem_map.1 h
  rw [String.toList_ofList]
  rcases List.mem_cons.1 hpart with rfl | hpart
  · exact hfirst
  · exact hothers part hpart

/-- A key that holds a dot has a path below its root. -/
theorem split_snd_eq_nil_iff {key : String} : (split key).2 = [] ↔ '.' ∉ key.toList := by
  constructor
  · intro h
    have hroot : (split key).1 ∈ segments key := by
      rw [segments_eq]
      exact List.mem_cons_self
    have hnot := undotted_segments hroot
    rwa [split_fst_of_undotted h] at hnot
  · intro h
    rw [split_of_undotted h]

end Key

/-- Nothing is removed under a key that is not there. -/
theorem Object.erase_eq_self {o : Object} {key : String} (h : o.get? key = none) :
    o.erase key = o := by
  induction o with
  | nil => rfl
  | cons e rest ih =>
    obtain ⟨k, v⟩ := e
    by_cases hk : k = key
    · simp [Object.get?, hk] at h
    · have hne : (key == k) = false := by simpa using Ne.symm hk
      have hrest : Object.get? rest key = none := by
        simpa [Object.get?, List.lookup_cons, hne] using h
      rw [erase, if_neg hk, ih hrest]

namespace Document

open Json (Apart AllApart)

variable {o : Object} {p q : List String} {x : Option Json} {name next : String}

/-! ### One path -/

/-- The members of what stands under a key; none if it is no object. -/
def members : Option Json → Object
  | some (.obj entries) => entries
  | _ => []

theorem place_cons (name next : String) (rest : List String) (x : Option Json) (o : Object) :
    place (name :: next :: rest) x o =
      o.alter (fun old => .obj (place (next :: rest) x (members old))) name := by
  rw [place]
  congr 1
  funext old
  match old with
  | some (.obj child) => rfl
  | none | some .null | some (.bool _) | some (.num _) | some (.str _) | some (.arr _) => rfl

/-- Below the root, an object with the members of a value holds what the value does. -/
theorem at?_members (old : Option Json) (name : String) (q : List String) :
    (Json.obj (members old)).at? (name :: q) = old.bind fun v => v.at? (name :: q) := by
  match old with
  | some (.obj child) => rfl
  | none | some .null | some (.bool _) | some (.num _) | some (.str _) | some (.arr _) => rfl

theorem at?_place_cons_self (rest q : List String) :
    (Json.obj (place (name :: next :: rest) x o)).at? (name :: q) =
      (Json.obj (place (next :: rest) x (members (o.get? name)))).at? q := by
  rw [place_cons, Json.at?, Object.get?_alter_self, Option.bind_some]

theorem at?_place_cons_of_ne {other : String} (h : other ≠ name) (rest q : List String) :
    (Json.obj (place (name :: next :: rest) x o)).at? (other :: q) =
      (Json.obj o).at? (other :: q) := by
  rw [place_cons, Json.at?, Object.get?_alter_of_ne _ h, ← Json.at?]

/-- At a path stands what was put there.  Nothing was there before if nothing is put. -/
theorem at?_place_self (hp : p ≠ []) (hx : x = none → (Json.obj o).at? p = none) :
    (Json.obj (place p x o)).at? p = x := by
  induction p generalizing o with
  | nil => exact absurd rfl hp
  | cons name p ih =>
    cases p with
    | nil =>
      cases x with
      | some v => simp [place, Json.at?, Object.get?_insert_self]
      | none =>
        have hnone : o.get? name = none := by simpa [Json.at?] using hx rfl
        simpa [place, Object.erase_eq_self hnone] using hx rfl
    | cons next rest =>
      rw [at?_place_cons_self]
      refine ih (List.cons_ne_nil _ _) fun hnone => ?_
      rw [at?_members]
      exact hx hnone

/-- Above a path stand objects. -/
theorem at?_place_above (h : q <+: p) (hne : q ≠ p) :
    ∃ entries, (Json.obj (place p x o)).at? q = some (.obj entries) := by
  induction p generalizing o q with
  | nil => exact absurd (List.prefix_nil.1 h) hne
  | cons name p ih =>
    cases q with
    | nil => exact ⟨_, rfl⟩
    | cons other q =>
      obtain ⟨rfl, hq⟩ := List.cons_prefix_cons.1 h
      have hbelow : q ≠ p := fun heq => hne (heq ▸ rfl)
      cases p with
      | nil => exact absurd (List.prefix_nil.1 hq) hbelow
      | cons next rest =>
        rw [at?_place_cons_self]
        exact ih hq hbelow

/-- All other places are as before. -/
theorem at?_place_apart (h : Apart p q) (hx : x = none → (Json.obj o).at? p = none) :
    (Json.obj (place p x o)).at? q = (Json.obj o).at? q := by
  induction p generalizing o q with
  | nil => exact absurd (List.nil_prefix) h.1
  | cons name p ih =>
    cases q with
    | nil => exact absurd (List.nil_prefix) h.2
    | cons other q =>
      cases p with
      | nil =>
        have hname : other ≠ name := by
          rintro rfl
          exact h.1 (by simp)
        cases x with
        | some v => rw [place, Json.at?, Object.get?_insert_of_ne o hname, ← Json.at?]
        | none =>
          have hnone : o.get? name = none := by simpa [Json.at?] using hx rfl
          rw [place, Object.erase_eq_self hnone]
      | cons next rest =>
        by_cases hname : other = name
        · subst hname
          have hbelow : Apart (next :: rest) q :=
            ⟨fun hpq => h.1 (by simpa using hpq), fun hqp => h.2 (by simpa using hqp)⟩
          rw [at?_place_cons_self, ih hbelow fun hnone => by rw [at?_members]; exact hx hnone]
          cases q with
          | nil => exact absurd (List.nil_prefix) hbelow.2
          | cons third q =>
            rw [at?_members]
            rfl
        · exact at?_place_cons_of_ne hname rest q

/-- The objects above a path have distinct keys if they had before. -/
theorem nodup_keys_at?_place
    (h : ∀ q (entries : Object), q <+: p → q ≠ p → (Json.obj o).at? q = some (.obj entries) →
      entries.keys.Nodup) {entries : Object} (hq : q <+: p) (hne : q ≠ p)
    (hentries : (Json.obj (place p x o)).at? q = some (.obj entries)) : entries.keys.Nodup := by
  induction p generalizing o q with
  | nil => exact absurd (List.prefix_nil.1 hq) hne
  | cons name p ih =>
    cases q with
    | nil =>
      cases hentries
      exact nodup_keys_place _ _ (h [] o List.nil_prefix (List.cons_ne_nil _ _).symm rfl)
    | cons other q =>
      obtain ⟨rfl, hrest⟩ := List.cons_prefix_cons.1 hq
      have hbelow : q ≠ p := fun heq => hne (heq ▸ rfl)
      cases p with
      | nil => exact absurd (List.prefix_nil.1 hrest) hbelow
      | cons next rest =>
        rw [at?_place_cons_self] at hentries
        refine ih (fun r found hr hne hfound => ?_) hrest hbelow hentries
        cases r with
        | nil =>
          cases hfound
          cases hold : o.get? other with
          | none => exact List.nodup_nil
          | some v =>
            match v, hold with
            | .obj child, hold =>
              refine h [other] child (by simp) (by simp) ?_
              rw [Json.at?, hold]
              rfl
            | .null, _ | .bool _, _ | .num _, _ | .str _, _ | .arr _, _ => exact List.nodup_nil
        | cons third r =>
          rw [at?_members] at hfound
          exact h (other :: third :: r) found (List.cons_prefix_cons.2 ⟨rfl, hr⟩)
            (fun heq => hne (List.cons.inj heq).2) hfound

/-! ### All entries -/

/-- The value that an entry puts at its path; none if a dotted key is removed. -/
def leaf? (e : String × Json) : Option Json :=
  if '.' ∈ e.1.toList ∧ e.2.isDelete = true then none else some e.2

theorem expandEntry_eq (o : Object) (e : String × Json) :
    expandEntry o e = place (Key.segments e.1) (leaf? e) o := by
  obtain ⟨key, v⟩ := e
  obtain ⟨root, path, hsplit⟩ : ∃ root path, Key.split key = (root, path) := ⟨_, _, rfl⟩
  have hdotted : (Key.split key).2 = [] ↔ '.' ∉ key.toList := Key.split_snd_eq_nil_iff
  rw [hsplit] at hdotted
  rw [expandEntry, Key.segments_eq, leaf?, hsplit]
  cases path with
  | nil =>
    have hroot : root = key := by
      have hundotted : (Key.split key).2 = [] := by rw [hsplit]
      have hself := Key.split_fst_of_undotted hundotted
      rwa [hsplit] at hself
    have hnot : ¬ ('.' ∈ key.toList ∧ v.isDelete = true) := fun h => hdotted.1 rfl h.1
    subst hroot
    simp [hnot, place]
  | cons next rest =>
    have hdot : '.' ∈ key.toList := by
      by_contra hnot
      cases hdotted.2 hnot
    simp [hdot]

/-- What an object holds in which all entries stand at their paths. -/
structure Holds (entries o : Object) : Prop where
  /-- At the path of an entry stands its value, and nothing if it is removed. -/
  found : ∀ e ∈ entries, (Json.obj o).at? (Key.segments e.1) = leaf? e
  /-- Above the path of an entry stand objects. -/
  above : ∀ e ∈ entries, ∀ q, q <+: Key.segments e.1 → q ≠ Key.segments e.1 →
    ∃ members, (Json.obj o).at? q = some (.obj members)
  /-- Nothing stands anywhere else. -/
  outside : ∀ q, q ≠ [] → (∀ e ∈ entries, Apart (Key.segments e.1) q) → (Json.obj o).at? q = none
  /-- No key occurs twice in an object that is not inside a value of an entry. -/
  distinct : ∀ q (members : Object), (∀ e ∈ entries, ¬ Key.segments e.1 <+: q) →
    (Json.obj o).at? q = some (.obj members) → members.keys.Nodup

theorem holds_nil : Holds [] [] where
  found := by simp
  above := by simp
  outside q hq _ := by
    cases q with
    | nil => exact absurd rfl hq
    | cons name q => rfl
  distinct q entries _ h := by
    cases q with
    | nil =>
      cases h
      exact List.nodup_nil
    | cons name q => cases h

variable {entries entries' : Object}

/-- One more entry, whose path is apart from those of the others. -/
theorem Holds.expandEntry {e : String × Json} (h : Holds entries o)
    (hapart : ∀ f ∈ entries, Apart (Key.segments f.1) (Key.segments e.1)) :
    Holds (entries ++ [e]) (expandEntry o e) := by
  have hpath : Key.segments e.1 ≠ [] := by simp [Key.segments_eq]
  have hnew : (Json.obj o).at? (Key.segments e.1) = none := h.outside _ hpath hapart
  rw [expandEntry_eq]
  constructor
  · intro f hf
    rcases List.mem_append.1 hf with hf | hf
    · rw [at?_place_apart (hapart f hf).symm fun _ => hnew]
      exact h.found f hf
    · obtain rfl := List.mem_singleton.1 hf
      exact at?_place_self hpath fun _ => hnew
  · intro f hf q hq hne
    by_cases hinside : q <+: Key.segments e.1
    · -- the path of another entry does not end above this one
      refine at?_place_above hinside fun heq => ?_
      rcases List.mem_append.1 hf with hf | hf
      · exact (hapart f hf).2 (heq ▸ hq)
      · exact hne (heq.trans (by rw [List.mem_singleton.1 hf]))
    · rcases List.mem_append.1 hf with hf | hf
      · have hbelow : Apart (Key.segments e.1) q :=
          ⟨fun heq => (hapart f hf).2 (heq.trans hq), hinside⟩
        rw [at?_place_apart hbelow fun _ => hnew]
        exact h.above f hf q hq hne
      · exact absurd (List.mem_singleton.1 hf ▸ hq) hinside
  · intro q hq hall
    rw [at?_place_apart (hall e (by simp)) fun _ => hnew]
    exact h.outside q hq fun f hf => hall f (List.mem_append_left _ hf)
  · intro q members hall hmembers
    have hbefore : ∀ f ∈ entries, ¬ Key.segments f.1 <+: q :=
      fun f hf => hall f (List.mem_append_left _ hf)
    have hlast : ¬ Key.segments e.1 <+: q := hall e (by simp)
    by_cases hinside : q <+: Key.segments e.1
    · refine nodup_keys_at?_place (fun r found hr hne hfound => ?_) hinside ?_ hmembers
      · refine h.distinct r found (fun f hf hfr => ?_) hfound
        exact (hapart f hf).1 (hfr.trans hr)
      · rintro rfl
        exact hlast (List.prefix_refl _)
    · rw [at?_place_apart ⟨hlast, hinside⟩ fun _ => hnew] at hmembers
      exact h.distinct q members hbefore hmembers

theorem Holds.foldl_expandEntry {rest : Object} (h : Holds entries o)
    (hapart : AllApart ((entries ++ rest).keys.map Key.segments)) :
    Holds (entries ++ rest) (rest.foldl Document.expandEntry o) := by
  induction rest generalizing entries o with
  | nil => simpa using h
  | cons e rest ih =>
    have hone : ∀ f ∈ entries, Apart (Key.segments f.1) (Key.segments e.1) := by
      intro f hf
      rw [Object.keys, List.map_append, List.map_append] at hapart
      exact (List.pairwise_append.1 hapart).2.2 _
        (List.mem_map_of_mem (List.mem_map_of_mem hf)) _ (by simp)
    have hnext := ih (h.expandEntry hone) (by simpa using hapart)
    simpa using hnext

/-- What an object holds in which all entries stand is known but for the order of members. -/
theorem Holds.sameContent (h : Holds entries o) {o' : Object} (h' : Holds entries' o')
    (hperm : entries'.Perm entries) : (Json.obj o').SameContent (.obj o) := by
  intro q
  by_cases hroot : q = []
  · rw [hroot]
    rfl
  · by_cases hinside : ∃ e ∈ entries, Key.segments e.1 <+: q
    · obtain ⟨e, he, below, rfl⟩ := hinside
      rw [Json.content_append, Json.content_append, h.found e he,
        h'.found e (hperm.mem_iff.2 he)]
    · have hnot : ∀ e ∈ entries, ¬ Key.segments e.1 <+: q := fun e he hq => hinside ⟨e, he, hq⟩
      by_cases habove : ∃ e ∈ entries, q <+: Key.segments e.1
      · obtain ⟨e, he, hq⟩ := habove
        have hne : q ≠ Key.segments e.1 := by
          rintro rfl
          exact hnot e he (List.prefix_refl _)
        rw [Json.content_eq_obj_iff.2 (h.above e he q hq hne),
          Json.content_eq_obj_iff.2 (h'.above e (hperm.mem_iff.2 he) q hq hne)]
      · have hall : ∀ e ∈ entries, Apart (Key.segments e.1) q :=
          fun e he => ⟨hnot e he, fun hq => habove ⟨e, he, hq⟩⟩
        rw [Json.content_eq_none_iff.2 (h.outside q hroot hall),
          Json.content_eq_none_iff.2 (h'.outside q hroot fun e he => hall e (hperm.mem_iff.1 he))]

/-- A key that is not inside a value of an entry is a name on the path of an entry, so it holds no
dot. -/
theorem Holds.undotted (h : Holds entries o) {members : Object}
    (hq : ∀ e ∈ entries, ¬ Key.segments e.1 <+: q)
    (hmembers : (Json.obj o).at? q = some (.obj members)) {key : String}
    (hkey : key ∈ members.keys) : '.' ∉ key.toList := by
  obtain ⟨e, he, rfl⟩ := List.mem_map.1 hkey
  have hget : members.get? e.1 = some e.2 :=
    (lookup_eq_some_iff (h.distinct q members hq hmembers)).2 he
  -- something stands under the key, so it is not outside all paths
  obtain ⟨f, hf, hnot⟩ : ∃ f ∈ entries, ¬ Apart (Key.segments f.1) (q ++ [e.1]) := by
    by_contra hall
    have hnone := h.outside (q ++ [e.1]) (by simp) (by simpa using hall)
    rw [Json.at?_append, hmembers, Option.bind_some, Json.at?, hget] at hnone
    cases hnone
  suffices hname : e.1 ∈ Key.segments f.1 from Key.undotted_segments hname
  by_cases hinside : Key.segments f.1 <+: q ++ [e.1]
  · rcases List.prefix_concat_iff.1 hinside with heq | habove
    · simp [heq]
    · exact absurd habove (hq f hf)
  · have hbelow : q ++ [e.1] <+: Key.segments f.1 := by
      by_contra hbelow
      exact hnot ⟨hinside, hbelow⟩
    exact hbelow.subset (by simp)

/-- **Dotted keys are expanded faithfully.**  If the paths of the keys are apart, the expansion
holds every entry at its path and nothing else but the objects above, whose keys are distinct and
hold no dot; in another order of the entries it is the same but for the order of members. -/
theorem expand_holds (h : AllApart (o.keys.map Key.segments)) :
    Holds o (expand o) ∧
      (∀ q (members : Object), (∀ e ∈ o, ¬ Key.segments e.1 <+: q) →
        (Json.obj (expand o)).at? q = some (.obj members) →
          ∀ key ∈ members.keys, '.' ∉ key.toList) ∧
      ∀ p : Object, p.Perm o → (Json.obj (expand p)).SameContent (.obj (expand o)) := by
  have hall : ∀ p : Object, p.Perm o → Holds p (expand p) := by
    intro p hperm
    have hapart : AllApart (p.keys.map Key.segments) :=
      (((hperm.map Prod.fst).map Key.segments).pairwise_iff And.symm).2 h
    exact holds_nil.foldl_expandEntry hapart
  have hself := hall o (.refl o)
  exact ⟨hself, fun _ _ hq hmembers _ hkey => hself.undotted hq hmembers hkey,
    fun p hperm => hself.sameContent (hall p hperm) hperm⟩

/-- A note with a title, two nested values, and a third one that is removed. -/
def nestedNote : Object :=
  [("title", .str "x"), ("meta.a.b", .num (.int 1)),
    ("meta.c", .obj [("__op", .str "Delete")]), ("meta.d", .bool true)]

theorem expand_holds_nestedNote :
    AllApart (nestedNote.keys.map Key.segments) ∧
      (Json.obj (expand nestedNote)).at? ["meta", "a", "b"] = some (.num (.int 1)) ∧
      (Json.obj (expand nestedNote)).at? ["meta", "c"] = none ∧
      (Json.obj (expand nestedNote.reverse)).SameContent
        (.obj [("title", .str "x"),
          ("meta", .obj [("a", .obj [("b", .num (.int 1))]), ("d", .bool true)])]) := by
  have hapart : AllApart (nestedNote.keys.map Key.segments) := by
    unfold AllApart Apart
    decide +kernel
  obtain ⟨hholds, -, horder⟩ := expand_holds hapart
  have hvalue := hholds.found ("meta.a.b", .num (.int 1)) (by simp [nestedNote])
  have hremoved := hholds.found ("meta.c", .obj [("__op", .str "Delete")]) (by simp [nestedNote])
  exact ⟨hapart, hvalue, hremoved, horder _ (List.reverse_perm nestedNote)⟩

end Document

end DocStore
