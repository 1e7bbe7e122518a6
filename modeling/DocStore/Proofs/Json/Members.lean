import DocStore.Json.Basic
import Mathlib.Data.List.Infix
import Mathlib.Data.List.Pairwise

/-!
# Members of JSON objects

A path of names leads to a member inside a value (`Json.at?`).  What a value holds is known from its
`Json.content`, which says of an object only that it is one; the order of its members does not
count.

`Json.setAt` puts a value at a path if the object above it is there, and `Json.removeAt` removes
what is at a path.  `Json.content_mergeAll` is about several values: the objects above all of them
are put first, the shortest paths before the others, each with what it holds already.
-/

namespace DocStore

namespace Json

/-- The paths of two members, neither of which is inside the other. -/
def Apart (p q : List String) : Prop := ¬ p <+: q ∧ ¬ q <+: p

/-- The value at a path of names. -/
def at? : Json → List String → Option Json
  | v, [] => some v
  | .obj o, name :: path => (Object.get? o name).bind fun child => at? child path
  | _, _ :: _ => none

/-- A value without its members. -/
def outline : Json → Json
  | .obj _ => .obj []
  | v => v

/-- What a value holds at a path: the value there, or that it is an object. -/
def content (v : Json) (path : List String) : Option Json := (v.at? path).map outline

/-- Put a value at a path.  What is there is replaced; otherwise the value becomes a new member of
the object above, and nothing happens if there is no such object. -/
def setAt (v : Json) : List String → Json → Json
  | [], _ => v
  | name :: path, .obj o =>
    match Object.get? o name, path with
    | some child, _ => .obj (Object.insert o name (setAt v path child))
    | none, [] => .obj (Object.insert o name v)
    | none, _ :: _ => .obj o
  | _ :: _, d => d

/-- Remove what is at a path; nothing happens if nothing is there. -/
def removeAt : List String → Json → Json
  | [name], .obj o => .obj (o.filter fun e => e.1 != name)
  | name :: next :: path, .obj o =>
    match Object.get? o name with
    | some child => .obj (Object.insert o name (removeAt (next :: path) child))
    | none => .obj o
  | _, d => d

/-- Put values at paths, one after the other. -/
def setAll (pairs : List (List String × Json)) (d : Json) : Json :=
  pairs.foldl (fun d e => setAt e.2 e.1 d) d

/-- Remove what is at paths, one after the other. -/
def removeAll (paths : List (List String)) (d : Json) : Json :=
  paths.foldl (fun d p => removeAt p d) d

variable {v d : Json} {o : Object} {name : String} {p q : List String}

@[simp] theorem content_nil_obj (o : Object) : (obj o).content [] = some (.obj []) := rfl

theorem content_cons (o : Object) (name : String) (q : List String) :
    (obj o).content (name :: q) = (o.get? name).bind fun child => child.content q := by
  rw [content, at?]
  cases o.get? name <;> rfl

theorem content_cons_of_some {child : Json} (h : o.get? name = some child) (q : List String) :
    (obj o).content (name :: q) = child.content q := by
  rw [content_cons, h, Option.bind_some]

theorem content_cons_of_none (h : o.get? name = none) (q : List String) :
    (obj o).content (name :: q) = none := by
  rw [content_cons, h, Option.bind_none]

theorem content_insert_self (o : Object) (name : String) (v : Json) (q : List String) :
    (obj (o.insert name v)).content (name :: q) = v.content q :=
  content_cons_of_some (Object.get?_insert_self o name v) q

theorem content_insert_of_ne (o : Object) {other : String} (h : other ≠ name) (v : Json)
    (q : List String) :
    (obj (o.insert name v)).content (other :: q) = (obj o).content (other :: q) := by
  rw [content_cons, content_cons, Object.get?_insert_of_ne o h]

/-- A value that is no object holds nothing below itself. -/
theorem content_eq_none (h : d.content [] ≠ some (.obj [])) (hq : q ≠ []) : d.content q = none := by
  cases q with
  | nil => exact absurd rfl hq
  | cons name q =>
    cases d with
    | obj o => exact absurd rfl h
    | null | bool b | num n | str s | arr items => rfl

theorem exists_obj_of_content (h : d.content [] = some (.obj [])) : ∃ o, d = .obj o := by
  cases d with
  | obj o => exact ⟨o, rfl⟩
  | null | bool b | num n | str s | arr items => cases h

theorem at?_append (d : Json) (p q : List String) :
    d.at? (p ++ q) = (d.at? p).bind fun w => w.at? q := by
  induction p generalizing d with
  | nil => rfl
  | cons name p ih =>
    cases d with
    | obj o =>
      rw [List.cons_append, at?, at?, Option.bind_assoc]
      exact congrArg _ (funext fun child => ih child)
    | null | bool b | num n | str s | arr items => rfl

theorem content_append (d : Json) (p q : List String) :
    d.content (p ++ q) = (d.at? p).bind fun w => w.content q := by
  rw [content, at?_append, Option.map_bind]
  rfl

theorem content_eq_none_iff : d.content p = none ↔ d.at? p = none := Option.map_eq_none_iff

theorem content_eq_obj_iff : d.content p = some (.obj []) ↔ ∃ o, d.at? p = some (.obj o) := by
  rw [content]
  cases d.at? p with
  | none => simp
  | some w => cases w <;> simp [outline]

theorem content_eq_num_iff {n : Number} :
    d.content p = some (.num n) ↔ d.at? p = some (.num n) := by
  rw [content]
  cases d.at? p with
  | none => simp
  | some w => cases w <;> simp [outline]

/-- Two values are the same but for the order of members. -/
def SameContent (v w : Json) : Prop := ∀ path, v.content path = w.content path

theorem exists_sameContent_of_content (h : ∀ q, d.content (p ++ q) = v.content q) :
    ∃ w, d.at? p = some w ∧ w.SameContent v := by
  cases hat : d.at? p with
  | none =>
    have hroot := h []
    rw [List.append_nil, content, content, hat] at hroot
    cases hroot
  | some w =>
    refine ⟨w, rfl, fun q => ?_⟩
    rw [← h, content_append, hat, Option.bind_some]

/-! ### One path -/

/-- All values above a path are objects. -/
def HasObjects (d : Json) (p : List String) : Prop :=
  ∀ q, q <+: p → q ≠ p → d.content q = some (.obj [])

theorem setAt_of_some {child : Json} (h : Object.get? o name = some child) (v : Json)
    (p : List String) :
    setAt v (name :: p) (obj o) = obj (Object.insert o name (setAt v p child)) := by
  simp [setAt, h]

theorem setAt_of_none (h : Object.get? o name = none) (v : Json) :
    setAt v [name] (obj o) = obj (Object.insert o name v) := by
  simp [setAt, h]

theorem setAt_member (o : Object) (name : String) (v : Json) :
    setAt v [name] (obj o) = obj (Object.insert o name v) := by
  cases h : o.get? name with
  | none => exact setAt_of_none h v
  | some child => exact setAt_of_some h v []

/-- Below a path stands what was put there, and all other places are as before. -/
theorem content_setAt (h : HasObjects d p) (q : List String) :
    (setAt v p d).content q =
      if p <+: q then v.content (q.drop p.length) else d.content q := by
  induction p generalizing d q with
  | nil => simp [setAt]
  | cons name p ih =>
    obtain ⟨o, rfl⟩ := exists_obj_of_content (h [] List.nil_prefix (List.cons_ne_nil _ _).symm)
    cases hchild : Object.get? o name with
    | none =>
      -- the value becomes a new member, since nothing can be below a missing one
      have hlast : p = [] := by
        by_contra hp
        have hmissing := h [name] (by simp) (by simpa using Ne.symm hp)
        rw [content_cons_of_none hchild] at hmissing
        cases hmissing
      subst hlast
      rw [setAt_of_none hchild]
      cases q with
      | nil => simp
      | cons other q =>
        by_cases hname : other = name
        · subst hname
          simp [content_insert_self]
        · simp [content_insert_of_ne o hname, Ne.symm hname]
    | some child =>
      rw [setAt_of_some hchild]
      cases q with
      | nil => simp
      | cons other q =>
        by_cases hname : other = name
        · subst hname
          have hobjects : HasObjects child p := by
            intro r hr hne
            have habove := h (other :: r) (by simpa using hr) (by simpa using hne)
            rwa [content_cons_of_some hchild] at habove
          simp [content_insert_self, content_cons_of_some hchild, ih hobjects]
        · simp [content_insert_of_ne o hname, Ne.symm hname]

theorem get?_filter (o : Object) (name other : String) :
    Object.get? (o.filter fun e => e.1 != name) other =
      if other = name then none else Object.get? o other := by
  unfold Object.get?
  induction o with
  | nil => simp
  | cons e rest ih =>
    obtain ⟨key, w⟩ := e
    by_cases hkey : key = name
    · subst hkey
      rw [List.filter_cons_of_neg (by simp), ih]
      by_cases hother : other = key
      · simp [hother]
      · have hne : (other == key) = false := by simpa using hother
        simp [hother, List.lookup_cons, hne]
    · rw [List.filter_cons_of_pos (by simpa using hkey), List.lookup_cons, List.lookup_cons, ih]
      by_cases hother : other = key
      · subst hother
        simp [hkey]
      · have hne : (other == key) = false := by simpa using hother
        simp [hne]

theorem removeAt_eq_self (h : d.content [] ≠ some (.obj [])) (p : List String) :
    removeAt p d = d := by
  cases d with
  | obj o => exact absurd rfl h
  | null | bool b | num n | str s | arr items =>
    cases p with
    | nil => rfl
    | cons name p => cases p <;> rfl

theorem removeAt_of_some {child : Json} {next : String} (h : Object.get? o name = some child)
    (p : List String) :
    removeAt (name :: next :: p) (obj o) =
      obj (Object.insert o name (removeAt (next :: p) child)) := by
  simp [removeAt, h]

theorem removeAt_of_none {next : String} (h : Object.get? o name = none) (p : List String) :
    removeAt (name :: next :: p) (obj o) = obj o := by
  simp [removeAt, h]

/-- Below a path that is removed stands nothing, and all other places are as before. -/
theorem content_removeAt (hp : p ≠ []) (d : Json) (q : List String) :
    (removeAt p d).content q = if p <+: q then none else d.content q := by
  induction p generalizing d q with
  | nil => exact absurd rfl hp
  | cons name p ih =>
    by_cases hroot : d.content [] = some (.obj [])
    · obtain ⟨o, rfl⟩ := exists_obj_of_content hroot
      cases p with
      | nil =>
        cases q with
        | nil => simp [removeAt]
        | cons other q =>
          rw [removeAt, content_cons, content_cons, get?_filter]
          by_cases hname : other = name
          · simp [hname]
          · simp [hname, Ne.symm hname]
      | cons next p =>
        cases hchild : Object.get? o name with
        | none =>
          rw [removeAt_of_none hchild]
          split
          · next hinside =>
            obtain ⟨below, rfl⟩ := hinside
            exact content_cons_of_none hchild _
          · rfl
        | some child =>
          rw [removeAt_of_some hchild]
          cases q with
          | nil => simp
          | cons other q =>
            by_cases hname : other = name
            · subst hname
              have hbelow := ih (List.cons_ne_nil _ _) child q
              simp [content_insert_self, content_cons_of_some hchild, hbelow]
            · simp [content_insert_of_ne o hname, Ne.symm hname]
    · rw [removeAt_eq_self hroot]
      split
      · next hinside =>
        exact content_eq_none hroot fun hq => hp (List.prefix_nil.1 (hq ▸ hinside))
      · rfl

/-! ### Several paths -/

/-- The paths of members, none of which is inside another. -/
def AllApart (paths : List (List String)) : Prop := paths.Pairwise Apart

theorem apart_of_prefix_of_prefix (h : Apart p q) {r : List String} (hp : p <+: r) : ¬ q <+: r := by
  intro hq
  rcases List.prefix_or_prefix_of_prefix hp hq with hpq | hqp
  · exact h.1 hpq
  · exact h.2 hqp

/-- Paths that are apart lead to different members. -/
theorem AllApart.eq_of_inside {α : Type} {es : List (List String × α)}
    (h : AllApart (es.map Prod.fst)) {e f : List String × α} (he : e ∈ es) (hf : f ∈ es)
    (hinside : e.1 <+: f.1) : e = f := by
  have hsymm : Std.Symm fun e f : List String × α => e = f ∨ Apart e.1 f.1 :=
    ⟨fun e f hef => hef.imp Eq.symm And.symm⟩
  have hall : es.Pairwise fun e f => e = f ∨ Apart e.1 f.1 :=
    (List.pairwise_map.1 h).imp fun hapart => .inr hapart
  have hboth := List.Pairwise.forall_of_forall (fun e _ => .inl rfl) hall he hf
  exact hboth.resolve_right fun hapart => hapart.1 hinside

theorem content_removeAll {paths : List (List String)} (h : [] ∉ paths) (d : Json)
    (q : List String) :
    (removeAll paths d).content q = if ∃ p ∈ paths, p <+: q then none else d.content q := by
  induction paths generalizing d with
  | nil => simp [removeAll]
  | cons p paths ih =>
    obtain ⟨hp, hpaths⟩ := not_or.1 (List.mem_cons.not.1 h)
    have hrest := ih hpaths (removeAt p d)
    rw [removeAll, List.foldl_cons, ← removeAll, hrest, content_removeAt (Ne.symm hp)]
    by_cases hinside : p <+: q
    · simp [hinside]
    · simp [hinside]

/-- What stands at a path after values were put at several. -/
def overlaid (pairs : List (List String × Json)) (before : List String → Option Json)
    (q : List String) : Option Json :=
  match pairs.find? fun e => e.1.isPrefixOf q with
  | some e => e.2.content (q.drop e.1.length)
  | none => before q

variable {pairs : List (List String × Json)}

theorem overlaid_of_mem {before : List String → Option Json}
    (hapart : AllApart (pairs.map Prod.fst)) {e : List String × Json} (he : e ∈ pairs)
    (below : List String) : overlaid pairs before (e.1 ++ below) = e.2.content below := by
  unfold overlaid
  cases hfind : pairs.find? fun f => f.1.isPrefixOf (e.1 ++ below) with
  | none =>
    have hnot := List.find?_eq_none.1 hfind e he
    simp at hnot
  | some f =>
    have hf := List.mem_of_find?_eq_some hfind
    have hinside : f.1 <+: e.1 ++ below :=
      List.isPrefixOf_iff_prefix.1 (by simpa using List.find?_some hfind)
    have heq : f = e := by
      rcases List.prefix_or_prefix_of_prefix hinside (List.prefix_append e.1 below) with hfe | hef
      · exact hapart.eq_of_inside hf he hfe
      · exact (hapart.eq_of_inside he hf hef).symm
    simp [heq]

theorem overlaid_of_outside {before : List String → Option Json}
    (h : ∀ p ∈ pairs.map Prod.fst, ¬ p <+: q) : overlaid pairs before q = before q := by
  have hnone : pairs.find? (fun e => e.1.isPrefixOf q) = none := by
    refine List.find?_eq_none.2 fun e he => ?_
    rw [List.isPrefixOf_iff_prefix]
    exact h e.1 (List.mem_map_of_mem he)
  rw [overlaid, hnone]

theorem content_setAll (hapart : AllApart (pairs.map Prod.fst))
    (hobjects : ∀ e ∈ pairs, HasObjects d e.1) (q : List String) :
    (setAll pairs d).content q = overlaid pairs d.content q := by
  induction pairs generalizing d with
  | nil => rfl
  | cons e pairs ih =>
    obtain ⟨hfirst, hrest⟩ := List.pairwise_cons.1 hapart
    have he := content_setAt (v := e.2) (hobjects e List.mem_cons_self)
    have hnext : ∀ f ∈ pairs, HasObjects (setAt e.2 e.1 d) f.1 := by
      intro f hf r hr hne
      have hnot : ¬ e.1 <+: r := fun hinside =>
        (hfirst f.1 (List.mem_map_of_mem hf)).1 (hinside.trans hr)
      rw [he, if_neg hnot]
      exact hobjects f (List.mem_cons_of_mem _ hf) r hr hne
    rw [setAll, List.foldl_cons, ← setAll, ih hrest hnext, overlaid, overlaid, List.find?_cons]
    by_cases hinside : e.1 <+: q
    · have hnone : pairs.find? (fun f => f.1.isPrefixOf q) = none := by
        refine List.find?_eq_none.2 fun f hf => ?_
        rw [List.isPrefixOf_iff_prefix]
        exact apart_of_prefix_of_prefix (hfirst f.1 (List.mem_map_of_mem hf)) hinside
      rw [hnone, List.isPrefixOf_iff_prefix.2 hinside]
      simp [he, hinside]
    · have hfalse : e.1.isPrefixOf q = false :=
        Bool.eq_false_iff.2 (List.isPrefixOf_iff_prefix.not.2 hinside)
      rw [hfalse]
      simp [he, hinside]

/-! ### The objects above members -/

/-- All paths above some members, but for the empty one, shortest first. -/
structure AreParents (paths above : List (List String)) : Prop where
  mem_iff : ∀ q, q ∈ above ↔ q ≠ [] ∧ ∃ p ∈ paths, q <+: p ∧ q ≠ p
  sorted : above.Pairwise fun p q => p.length ≤ q.length

/-- Put objects at paths, each with what it holds already. -/
def createAll (above : List (List String)) (d : Json) : Json :=
  setAll (above.map fun q => (q, (d.at? q).getD (.obj []))) d

/-- There is nothing at a path, or an object. -/
def MayHold (d : Json) (p : List String) : Prop :=
  d.content p = none ∨ d.content p = some (.obj [])

/-- What may be an object is one once it is created, and holds what it held. -/
theorem content_created (h : MayHold d p) (q : List String) :
    ((d.at? p).getD (.obj [])).content q =
      if q = [] then some (.obj []) else d.content (p ++ q) := by
  rw [content_append]
  cases hchild : d.at? p with
  | none =>
    cases q with
    | nil => rfl
    | cons name q => rfl
  | some w =>
    have hw : w.content [] = some (.obj []) := by
      simpa [MayHold, content, hchild, at?] using h
    split
    · next hq =>
      rw [hq]
      exact hw
    · rfl

/-- A value with objects at paths, and with all else as before. -/
def HasCreated (done : List (List String)) (d e : Json) : Prop :=
  ∀ q, e.content q = if q ∈ done then some (.obj []) else d.content q

section Created

variable {paths above done rest : List (List String)} {e : Json}

/-- One more object, which is not inside those that are there. -/
theorem HasCreated.setAt (h : HasCreated done d e) (hobjects : HasObjects e p)
    (hmay : MayHold d p) (hshorter : ∀ q ∈ done, q.length ≤ p.length) :
    HasCreated (done ++ [p]) d (setAt ((d.at? p).getD (.obj [])) p e) := by
  intro q
  rw [content_setAt hobjects]
  by_cases hinside : p <+: q
  · obtain ⟨below, rfl⟩ := hinside
    rw [if_pos (List.prefix_append p below), List.drop_left, content_created hmay]
    by_cases hbelow : below = []
    · simp [hbelow]
    · have hnot : p ++ below ∉ done := by
        intro hmem
        have hle := hshorter _ hmem
        have hpos := List.length_pos_iff.2 hbelow
        rw [List.length_append] at hle
        omega
      simp [hbelow, hnot]
  · have hne : q ≠ p := by
      rintro rfl
      exact hinside (List.prefix_refl q)
    rw [if_neg hinside, h]
    simp [hne]

variable (hparents : AreParents paths above) (hroot : d.content [] = some (.obj []))

include hparents hroot

/-- The objects above a path come before it. -/
theorem HasCreated.hasObjects (h : HasCreated done d e) (hdone : done ++ p :: rest = above) :
    HasObjects e p := by
  have hsorted := hparents.sorted
  rw [← hdone] at hsorted
  obtain ⟨-, hlater, -⟩ := List.pairwise_append.1 hsorted
  intro r hr hne
  rw [h]
  by_cases hempty : r = []
  · simp [hempty, hroot]
  · have hp : p ∈ above := by simp [← hdone]
    obtain ⟨-, leaf, hleaf, hinside, -⟩ := (hparents.mem_iff p).1 hp
    have hlt : r.length < p.length :=
      lt_of_le_of_ne hr.length_le fun hlength => hne (hr.eq_of_length hlength)
    have hmem : r ∈ done ++ p :: rest := by
      rw [hdone]
      refine (hparents.mem_iff r).2 ⟨hempty, leaf, hleaf, hr.trans hinside, ?_⟩
      rintro rfl
      exact absurd hinside.length_le (by omega)
    have hbefore : r ∈ done := by
      rcases List.mem_append.1 hmem with hmem | hmem
      · exact hmem
      · -- what is left is not shorter than this path
        rcases List.mem_cons.1 hmem with rfl | hmem
        · exact absurd rfl hne
        · exact absurd ((List.pairwise_cons.1 hlater).1 r hmem) (by omega)
    rw [if_pos hbefore]

theorem HasCreated.setAll (hmay : ∀ p ∈ above, MayHold d p) (h : HasCreated done d e)
    (hdone : done ++ rest = above) :
    HasCreated above d (setAll (rest.map fun q => (q, (d.at? q).getD (.obj []))) e) := by
  induction rest generalizing done e with
  | nil => rwa [← hdone, List.append_nil]
  | cons p rest ih =>
    have hsorted := hparents.sorted
    rw [← hdone] at hsorted
    have hacross := (List.pairwise_append.1 hsorted).2.2
    have hnext := h.setAt (h.hasObjects hparents hroot hdone) (hmay p (by simp [← hdone]))
      fun q hq => hacross q hq p List.mem_cons_self
    exact ih hnext (by simpa using hdone)

theorem content_createAll (hmay : ∀ p ∈ above, MayHold d p) (q : List String) :
    (createAll above d).content q = if q ∈ above then some (.obj []) else d.content q := by
  have hstart : HasCreated [] d d := fun q => by simp
  exact hstart.setAll hparents hroot hmay rfl q

end Created

/-- Put values at paths, after the objects above them. -/
def mergeAll (pairs : List (List String × Json)) (above : List (List String)) (d : Json) : Json :=
  setAll pairs (createAll above d)

/-- What a value holds after values were put at paths: these values, objects above them, and all
else as before. -/
def merged (pairs : List (List String × Json)) (before : List String → Option Json) :
    List String → Option Json :=
  overlaid pairs fun q =>
    if ∃ p ∈ pairs.map Prod.fst, q <+: p then some (.obj []) else before q

/-- Where a value was put, it stands with all it holds. -/
theorem merged_of_mem {before : List String → Option Json}
    (hapart : AllApart (pairs.map Prod.fst)) {e : List String × Json} (he : e ∈ pairs)
    (below : List String) : merged pairs before (e.1 ++ below) = e.2.content below :=
  overlaid_of_mem hapart he below

theorem merged_self {before : List String → Option Json} (hapart : AllApart (pairs.map Prod.fst))
    {e : List String × Json} (he : e ∈ pairs) : merged pairs before e.1 = e.2.content [] := by
  simpa using merged_of_mem hapart he []

/-- Above a value that was put somewhere stands an object. -/
theorem merged_above {before : List String → Option Json}
    (hnot : ∀ p ∈ pairs.map Prod.fst, ¬ p <+: q)
    (h : (∃ p ∈ pairs.map Prod.fst, q <+: p) ∨ before q = some (.obj [])) :
    merged pairs before q = some (.obj []) := by
  rw [merged, overlaid_of_outside hnot]
  split
  · rfl
  · next hinside => exact h.resolve_left hinside

/-- All other places are as before. -/
theorem merged_of_outside {before : List String → Option Json}
    (hnot : ∀ p ∈ pairs.map Prod.fst, ¬ p <+: q) (h : ∀ p ∈ pairs.map Prod.fst, ¬ q <+: p) :
    merged pairs before q = before q := by
  rw [merged, overlaid_of_outside hnot, if_neg (by simpa using h)]

theorem content_mergeAll {above : List (List String)}
    (hparents : AreParents (pairs.map Prod.fst) above) (hapart : AllApart (pairs.map Prod.fst))
    (hroot : d.content [] = some (.obj []))
    (hmay : ∀ p ∈ pairs.map Prod.fst, ∀ q, q <+: p → q ≠ p → MayHold d q) (q : List String) :
    (mergeAll pairs above d).content q = merged pairs d.content q := by
  have hcreated : ∀ q, (createAll above d).content q =
      if q ∈ above then some (.obj []) else d.content q := by
    refine content_createAll hparents hroot fun p hp => ?_
    obtain ⟨-, leaf, hleaf, hinside, hne⟩ := (hparents.mem_iff p).1 hp
    exact hmay leaf hleaf p hinside hne
  have hobjects : ∀ e ∈ pairs, HasObjects (createAll above d) e.1 := by
    intro e he r hr hne
    rw [hcreated]
    by_cases hempty : r = []
    · simp [hempty, hroot]
    · rw [if_pos ((hparents.mem_iff r).2 ⟨hempty, e.1, List.mem_map_of_mem he, hr, hne⟩)]
  rw [mergeAll, content_setAll hapart hobjects, merged, overlaid, overlaid]
  cases hfind : pairs.find? fun e => e.1.isPrefixOf q with
  | some e => rfl
  | none =>
    simp only [hcreated]
    by_cases hempty : q = []
    · simp [hempty, hroot]
    · have hnot : ∀ p ∈ pairs.map Prod.fst, q ≠ p := by
        rintro p hp rfl
        obtain ⟨e, he, rfl⟩ := List.mem_map.1 hp
        have hinside := List.find?_eq_none.1 hfind e he
        simp at hinside
      refine if_congr ?_ rfl rfl
      rw [hparents.mem_iff]
      constructor
      · rintro ⟨-, leaf, hleaf, hinside, -⟩
        exact ⟨leaf, hleaf, hinside⟩
      · rintro ⟨leaf, hleaf, hinside⟩
        exact ⟨hempty, leaf, hleaf, hinside, hnot leaf hleaf⟩

end Json

end DocStore
