import DocStore.Proofs.Sql.Values
import DocStore.Update.Change

/-!
# What steps give

The terms of the steps that change members of a column, with the values of their parameters:
members are removed (`Step.means_removeMembers`), and the others are put behind the objects above
them, added to what they were (`Step.means_addMembers`) or as they are (`Step.means_setMembers`).
A column that is `NULL` counts as an empty object.
-/

namespace DocStore

open Sql

open Term (Means MeansAll)

variable {plus : Number → Number → Number} {env : String → Option Value} {g : Nat → Token}
  {n : Nat} {vs ws : List Value}

/-- The placeholders from number `n` on are words with these values. -/
def Supplied (env : String → Option Value) (g : Nat → Token) : Nat → List Value → Prop
  | _, [] => True
  | n, v :: vs => (g n).kind = .word ∧ env (g n).source = some v ∧ Supplied env g (n + 1) vs

theorem supplied_append : Supplied env g n (vs ++ ws) ↔
    Supplied env g n vs ∧ Supplied env g (n + vs.length) ws := by
  induction vs generalizing n with
  | nil => simp [Supplied]
  | cons v vs ih =>
    have hlength : n + (v :: vs).length = n + 1 + vs.length := by simp; omega
    rw [List.cons_append, Supplied, Supplied, ih, hlength]
    tauto

theorem supplied_cons {v : Value} : Supplied env g n (v :: vs) ↔
    Supplied env g n [v] ∧ Supplied env g (n + 1) vs :=
  (supplied_append : Supplied env g n ([v] ++ vs) ↔ _)

theorem Supplied.means {v : Value} (h : Supplied env g n (v :: vs)) :
    Means plus env ((Template.slot n).solidTokens g) v := by
  obtain ⟨hword, hvalue, -⟩ := h
  have htoken : (⟨.word, (g n).source⟩ : Token) = g n := by rw [← hword]
  rw [Template.slot, Template.solidTokens, Template.solidTokens, ← htoken]
  exact Term.means_word hvalue

namespace Step

/-- The value of a path. -/
def pathValue (path : List String) : Value := .text (jsonPath path)

/-- The number at a path of a value, or zero. -/
def numberAt (d : Json) (path : List String) : Number :=
  match d.at? path with
  | some (.num n) => n
  | _ => .int 0

/-- There is nothing at a path, or a number. -/
def MayAdd (d : Json) (path : List String) : Prop :=
  d.at? path = none ∨ ∃ n, d.at? path = some (.num n)

section Column

variable {c : Template} {stored : Value} (hcolumn : Means plus env (c.solidTokens g) stored)
  (hstored : stored = .null ∨ ∃ d, stored = .json d)

include hcolumn hstored

theorem means_orObject :
    Means plus env ((orObject c).solidTokens g) (.json stored.document) := by
  have hopen : solid "COALESCE(" = [⟨.word, "COALESCE"⟩, ⟨.mark, "("⟩] := by decide
  have hclose : solid ", JSON_OBJECT())" = [⟨.mark, ","⟩, ⟨.word, "JSON_OBJECT"⟩, ⟨.mark, "("⟩,
      ⟨.mark, ")"⟩, ⟨.mark, ")"⟩] := by decide
  have hvalue : Value.call? "COALESCE" [stored, .json (.obj [])] =
      some (.json stored.document) := by
    rcases hstored with rfl | ⟨d, rfl⟩ <;> rfl
  simpa [orObject, hopen, hclose] using (hcolumn.all.append Term.means_object.all).call hvalue

/-- What `JSON_EXTRACT` gives for a path of the column. -/
def member (stored : Value) (path : List String) : Value :=
  match stored with
  | .json d => ((d.at? path).map Value.json).getD .null
  | _ => .null

theorem means_extract {path : List String} (hpath : Supplied env g n [pathValue path]) :
    Means plus env (⟨.word, "JSON_EXTRACT"⟩ :: ⟨.mark, "("⟩ ::
      (c.solidTokens g ++ ⟨.mark, ","⟩ :: (Template.slot n).solidTokens g) ++ [⟨.mark, ")"⟩])
      (member stored path) := by
  have hvalue : Value.call? "JSON_EXTRACT" [stored, pathValue path] =
      some (member stored path) := by
    rcases hstored with rfl | ⟨d, rfl⟩
    · rfl
    · simp [Value.call?, pathValue, path?_jsonPath, member]
  exact (hcolumn.all.append hpath.means.all).call hvalue

/-- The pair that creates an object. -/
theorem means_parentPair {path : List String} (hpath : Supplied env g n [pathValue path]) :
    MeansAll plus env ((sql [.slot n, ", COALESCE(JSON_EXTRACT(", c, ", ", .slot n,
      "), JSON_OBJECT())"]).solidTokens g)
      [pathValue path, .json ((stored.document.at? path).getD (.obj []))] := by
  have hopen : solid ", COALESCE(JSON_EXTRACT(" = [⟨.mark, ","⟩, ⟨.word, "COALESCE"⟩, ⟨.mark, "("⟩,
      ⟨.word, "JSON_EXTRACT"⟩, ⟨.mark, "("⟩] := by decide
  have hcomma : solid ", " = [⟨.mark, ","⟩] := by decide
  have hclose : solid "), JSON_OBJECT())" = [⟨.mark, ")"⟩, ⟨.mark, ","⟩, ⟨.word, "JSON_OBJECT"⟩,
      ⟨.mark, "("⟩, ⟨.mark, ")"⟩, ⟨.mark, ")"⟩] := by decide
  have hvalue : Value.call? "COALESCE" [member stored path, .json (.obj [])] =
      some (.json ((stored.document.at? path).getD (.obj []))) := by
    rcases hstored with rfl | ⟨d, rfl⟩
    · cases path <;> rfl
    · rw [member, Value.document]
      cases d.at? path <;> rfl
  have hextract := (means_extract hcolumn hstored hpath).all
  have hobject := (hextract.append Term.means_object.all).call hvalue
  simpa [hopen, hcomma, hclose] using hpath.means.all.append hobject.all

/-- The pair that adds to a number. -/
theorem means_amountPair {path : List String} {amount : Number}
    (hpath : Supplied env g n [pathValue path, .json (.num amount)])
    (hmay : MayAdd stored.document path) :
    MeansAll plus env ((sql [.slot n, ", COALESCE(JSON_EXTRACT(", c, ", ", .slot n, "), 0) + ",
      .slot (n + 1)]).solidTokens g)
      [pathValue path, .json (.num (plus (numberAt stored.document path) amount))] := by
  have hopen : solid ", COALESCE(JSON_EXTRACT(" = [⟨.mark, ","⟩, ⟨.word, "COALESCE"⟩, ⟨.mark, "("⟩,
      ⟨.word, "JSON_EXTRACT"⟩, ⟨.mark, "("⟩] := by decide
  have hcomma : solid ", " = [⟨.mark, ","⟩] := by decide
  have hclose : solid "), 0) + " = [⟨.mark, ")"⟩, ⟨.mark, ","⟩, ⟨.number, "0"⟩, ⟨.mark, ")"⟩,
      ⟨.mark, "+"⟩] := by decide
  have hvalue : Value.call? "COALESCE" [member stored path, .json (.num (.int 0))] =
      some (.json (.num (numberAt stored.document path))) := by
    rcases hstored with rfl | ⟨d, rfl⟩
    · cases path <;> rfl
    · rw [member, Value.document, numberAt]
      rcases hmay with hnone | ⟨m, hm⟩
      · rw [Value.document] at hnone
        rw [hnone]
        rfl
      · rw [Value.document] at hm
        rw [hm]
        rfl
  obtain ⟨hfirst, hamount⟩ := supplied_cons.1 hpath
  have hold := ((means_extract hcolumn hstored hfirst).all.append Term.means_zero.all).call hvalue
  simpa [hopen, hcomma, hclose] using hfirst.means.all.append (hold.sum hamount.means)

end Column

/-- The pair that sets a member. -/
theorem means_valuePair {path : List String} {v : Json}
    (hpath : Supplied env g n [pathValue path, .source v]) :
    MeansAll plus env ((sql [.slot n, ", CAST(", .slot (n + 1), " AS JSON)"]).solidTokens g)
      [pathValue path, .json v] := by
  have hopen : solid ", CAST(" = [⟨.mark, ","⟩, ⟨.word, "CAST"⟩, ⟨.mark, "("⟩] := by decide
  have hclose : solid " AS JSON)" = [⟨.word, "AS"⟩, ⟨.word, "JSON"⟩, ⟨.mark, ")"⟩] := by decide
  obtain ⟨hfirst, hvalue⟩ := supplied_cons.1 hpath
  have happly : Value.call? "CAST" [.json v] = some (.json v) := rfl
  have hsource : Means plus env _ (.source v) := hvalue.means
  have hcast := hsource.asJson.all.call happly
  simpa [hopen, hclose] using hfirst.means.all.append hcast.all

/-! ### Pairs in order -/

/-- The value of a pair. -/
def pairValues (e : List String × Json) : List Value := [pathValue e.1, .json e.2]

theorem pairNumbers_eq_range' (n count : Nat) : pairNumbers n count = List.range' n count 2 := by
  refine List.ext_getElem (by simp [pairNumbers]) fun i hi hi' => ?_
  simp [pairNumbers]

/-- Parts that are written one behind the other, each with the placeholders of its own values. -/
theorem means_parts {α : Type} {width : Nat} {part : Nat → Template}
    {given results : α → List Value} {as : List α} (hwidth : ∀ a, (given a).length = width)
    (hpart : ∀ n, ∀ a ∈ as, Supplied env g n (given a) →
      MeansAll plus env ((part n).solidTokens g) (results a))
    (h : Supplied env g n (as.flatMap given)) :
    List.Forall₂ (fun t vs => MeansAll plus env (Template.solidTokens g t) vs)
      ((List.range' n as.length width).map part) (as.map results) := by
  induction as generalizing n with
  | nil => exact .nil
  | cons a as ih =>
    rw [List.flatMap_cons, supplied_append, hwidth] at h
    exact .cons (hpart n a List.mem_cons_self h.1)
      (ih (fun n b hb => hpart n b (List.mem_cons_of_mem _ hb)) h.2)

theorem setPairs?_pairs (pairs : List (List String × Json)) (d : Json) (rest : List Value) :
    Value.setPairs? d (pairs.flatMap pairValues ++ rest) =
      Value.setPairs? (Json.setAll pairs d) rest := by
  induction pairs generalizing d with
  | nil => rfl
  | cons e pairs ih =>
    have hfirst : Value.setPairs? d (pairValues e ++ (pairs.flatMap pairValues ++ rest)) =
        Value.setPairs? (Json.setAt e.2 e.1 d) (pairs.flatMap pairValues ++ rest) := by
      simp [pairValues, pathValue, Value.setPairs?, path?_jsonPath, Value.toJson]
    rw [List.flatMap_cons, List.append_assoc, hfirst, ih]
    rfl

theorem removePaths?_paths (paths : List (List String)) (d : Json) :
    Value.removePaths? d (paths.map pathValue) = some (Json.removeAll paths d) := by
  induction paths generalizing d with
  | nil => rfl
  | cons p paths ih =>
    have hfirst : Value.removePaths? d (pathValue p :: paths.map pathValue) =
        Value.removePaths? (Json.removeAt p d) (paths.map pathValue) := by
      simp [pathValue, Value.removePaths?, path?_jsonPath]
    rw [List.map_cons, hfirst, ih]
    rfl

section Column

variable {c : Template} {stored : Value} (hcolumn : Means plus env (c.solidTokens g) stored)
  (hstored : stored = .null ∨ ∃ d, stored = .json d)

include hcolumn hstored

/-- Members that are set, one pair after the other. -/
theorem means_setText {parts : List Template} {pairs : List (List String × Json)}
    (hne : parts ≠ [])
    (h : List.Forall₂ (fun t vs => MeansAll plus env (Template.solidTokens g t) vs) parts
      (pairs.map pairValues)) :
    Means plus env ((setText c parts).solidTokens g)
      (.json (Json.setAll pairs stored.document)) := by
  have hopen : solid "JSON_SET(" = [⟨.word, "JSON_SET"⟩, ⟨.mark, "("⟩] := by decide
  have hcomma : solid ", " = [⟨.mark, ","⟩] := by decide
  have hclose : solid ")" = [⟨.mark, ")"⟩] := by decide
  have hpairs := Term.meansAll_join hcomma hne h
  have hvalue : Value.call? "JSON_SET" (.json stored.document :: (pairs.map pairValues).flatten) =
      some (.json (Json.setAll pairs stored.document)) := by
    have hset := setPairs?_pairs pairs stored.document []
    rw [List.append_nil, List.flatMap_def] at hset
    rw [Value.call?, hset]
    rfl
  simpa [setText, hopen, hcomma, hclose] using
    ((means_orObject hcolumn hstored).all.append hpairs).call hvalue

theorem means_removeMembers {paths : List (List String)} (hne : paths ≠ [])
    (h : Supplied env g n (paths.map pathValue)) :
    Means plus env ((text c n (.removeMembers paths)).solidTokens g)
      (.json (Json.removeAll paths stored.document)) := by
  have hopen : solid "JSON_REMOVE(" = [⟨.word, "JSON_REMOVE"⟩, ⟨.mark, "("⟩] := by decide
  have hcomma : solid ", " = [⟨.mark, ","⟩] := by decide
  have hclose : solid ")" = [⟨.mark, ")"⟩] := by decide
  have hparts : List.Forall₂ (fun t vs => MeansAll plus env (Template.solidTokens g t) vs)
      (slotsFrom n paths.length) (paths.map fun p => [pathValue p]) := by
    rw [List.map_eq_flatMap] at h
    exact means_parts (fun _ => rfl) (fun n p _ hp => hp.means.all) h
  have hpaths := Term.meansAll_join hcomma (by simpa [slotsFrom] using hne) hparts
  rw [← List.flatMap_def, ← List.map_eq_flatMap] at hpaths
  have hvalue : Value.call? "JSON_REMOVE" (.json stored.document :: paths.map pathValue) =
      some (.json (Json.removeAll paths stored.document)) := by
    rw [Value.call?, removePaths?_paths]
    rfl
  simpa [text, hopen, hcomma, hclose] using
    ((means_orObject hcolumn hstored).all.append hpaths).call hvalue

/-- Members that are set behind the objects above them. -/
theorem means_merge {above : List (List String)} {others : List Template}
    {pairs : List (List String × Json)} (hne : others ≠ [])
    (habove : Supplied env g n (above.map pathValue))
    (h : List.Forall₂ (fun t vs => MeansAll plus env (Template.solidTokens g t) vs) others
      (pairs.map pairValues)) :
    Means plus env ((setText c (parentPairs c n above.length ++ others)).solidTokens g)
      (.json (Json.mergeAll pairs above stored.document)) := by
  have hparents : List.Forall₂ (fun t vs => MeansAll plus env (Template.solidTokens g t) vs)
      (parentPairs c n above.length)
      (above.map fun q => pairValues (q, (stored.document.at? q).getD (.obj []))) := by
    rw [List.map_eq_flatMap] at habove
    exact means_parts (fun _ => rfl)
      (fun n q _ hq => means_parentPair hcolumn hstored hq) habove
  have hparts : List.Forall₂ (fun t vs => MeansAll plus env (Template.solidTokens g t) vs)
      (parentPairs c n above.length ++ others) (_ ++ pairs.map pairValues) :=
    List.rel_append hparents h
  have hpairs : (above.map fun q => pairValues (q, (stored.document.at? q).getD (.obj []))) ++
      pairs.map pairValues = ((above.map fun q => (q, (stored.document.at? q).getD (.obj []))) ++
        pairs).map pairValues := by
    rw [List.map_append, List.map_map]
    rfl
  rw [hpairs] at hparts
  have hmeans := means_setText hcolumn hstored (by simpa using fun _ => hne) hparts
  rwa [Json.setAll, List.foldl_append] at hmeans

theorem means_addMembers {amounts : List (List String × Number)} (hne : amounts ≠ [])
    (habove : Supplied env g n ((allParents (amounts.map Prod.fst)).map pathValue))
    (h : Supplied env g (n + (allParents (amounts.map Prod.fst)).length)
      (amounts.flatMap fun e => [pathValue e.1, .json (.num e.2)]))
    (hmay : ∀ e ∈ amounts, MayAdd stored.document e.1) :
    Means plus env ((text c n (.addMembers (amounts.map fun e => (e.1, .num e.2)))).solidTokens g)
      (.json (Json.mergeAll
        (amounts.map fun e => (e.1, .num (plus (numberAt stored.document e.1) e.2)))
        (allParents (amounts.map Prod.fst)) stored.document)) := by
  have hpairs : List.Forall₂ (fun t vs => MeansAll plus env (Template.solidTokens g t) vs)
      ((pairNumbers (n + (allParents (amounts.map Prod.fst)).length) amounts.length).map fun i =>
        sql [.slot i, ", COALESCE(JSON_EXTRACT(", c, ", ", .slot i, "), 0) + ", .slot (i + 1)])
      (amounts.map fun e =>
        pairValues (e.1, .num (plus (numberAt stored.document e.1) e.2))) := by
    rw [pairNumbers_eq_range']
    refine means_parts (fun _ => rfl) (fun n e he hpair => ?_) h
    exact means_amountPair hcolumn hstored hpair (hmay e he)
  rw [← Function.comp_def pairValues, ← List.map_map] at hpairs
  have hmeans := means_merge hcolumn hstored ?_ habove hpairs
  · simpa [text, Function.comp_def] using hmeans
  · simpa [pairNumbers] using hne

theorem means_setMembers {values : List (List String × Json)} (hne : values ≠ [])
    (habove : Supplied env g n ((allParents (values.map Prod.fst)).map pathValue))
    (h : Supplied env g (n + (allParents (values.map Prod.fst)).length)
      (values.flatMap fun e => [pathValue e.1, .source e.2])) :
    Means plus env ((text c n (.setMembers values)).solidTokens g)
      (.json (Json.mergeAll values (allParents (values.map Prod.fst)) stored.document)) := by
  have hpairs : List.Forall₂ (fun t vs => MeansAll plus env (Template.solidTokens g t) vs)
      ((pairNumbers (n + (allParents (values.map Prod.fst)).length) values.length).map fun i =>
        sql [.slot i, ", CAST(", .slot (i + 1), " AS JSON)"]) (values.map pairValues) := by
    rw [pairNumbers_eq_range']
    refine means_parts (fun _ => rfl) (fun n e _ hpair => ?_) h
    exact means_valuePair hpair
  exact means_merge hcolumn hstored (by simpa [pairNumbers] using hne) habove hpairs

end Column

/-! ### The objects above members -/

theorem mem_parents {p q : List String} : q ∈ parents p ↔ q ≠ [] ∧ q <+: p ∧ q ≠ p := by
  unfold parents
  rw [List.mem_map]
  constructor
  · rintro ⟨i, hi, rfl⟩
    obtain ⟨hlo, hhi⟩ := List.mem_range'_1.1 hi
    have hlength : (p.take i).length = i := by rw [List.length_take]; omega
    refine ⟨?_, List.take_prefix i p, ?_⟩
    · rw [← List.length_pos_iff, hlength]
      omega
    · intro heq
      rw [heq] at hlength
      omega
  · rintro ⟨hne, hinside, hstrict⟩
    have hpos := List.length_pos_iff.2 hne
    have hle := hinside.length_le
    have hlt : q.length ≠ p.length := fun hlength => hstrict (hinside.eq_of_length hlength)
    exact ⟨q.length, List.mem_range'_1.2 (by omega), (List.prefix_iff_eq_take.1 hinside).symm⟩

/-- The objects above all paths come before what is inside them. -/
theorem areParents_allParents (paths : List (List String)) :
    Json.AreParents paths (allParents paths) where
  mem_iff q := by
    unfold allParents
    rw [List.mem_mergeSort, List.mem_eraseDups, List.mem_flatMap]
    simp only [mem_parents]
    constructor
    · rintro ⟨p, hp, hne, hinside, hstrict⟩
      exact ⟨hne, p, hp, hinside, hstrict⟩
    · rintro ⟨hne, p, hp, hinside, hstrict⟩
      exact ⟨p, hp, hne, hinside, hstrict⟩
  sorted := by
    have hsorted : (allParents paths).Pairwise fun a b => decide (a.length ≤ b.length) = true :=
      List.pairwise_mergeSort (fun a b c hab hbc => by simp at *; omega)
        (fun a b => by simp; omega) _
    exact hsorted.imp fun h => by simpa using h

end Step

end DocStore
