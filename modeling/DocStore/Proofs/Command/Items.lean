import DocStore.Proofs.Command.Clauses

/-!
# Lists in parentheses

Columns of a table, columns of an index and the values of a row stand in parentheses with commas
between them.  `itemsFrom` reads such a list behind the parenthesis that opens it; an item may hold
parentheses of its own, and commas between these.

Items that open and close their parentheses (`IsItem`) are read as they are written
(`items?_listTokens`).
-/

namespace DocStore

namespace Sql

/-- The number of open parentheses behind a token of an item; `none` if the item ends in front of
it. -/
def stepOpen (depth : Nat) (t : Token) : Option Nat :=
  if t = ⟨.mark, "("⟩ then some (depth + 1)
  else if t = ⟨.mark, ")"⟩ then if depth = 0 then none else some (depth - 1)
  else if t = ⟨.mark, ","⟩ ∧ depth = 0 then none
  else some depth

/-- The number of open parentheses behind tokens of an item. -/
def runOpen : Nat → List Token → Option Nat
  | depth, [] => some depth
  | depth, t :: ts => (stepOpen depth t).bind fun d => runOpen d ts

/-- The items of a list up to the parenthesis that closes it, and what stands behind.  `depth` is
the number of parentheses that are open in the item, and `item` what is read of it. -/
def itemsFrom (depth : Nat) (item : List Token) :
    List Token → Option (List (List Token) × List Token)
  | [] => none
  | t :: ts =>
    match stepOpen depth t with
    | some d => itemsFrom d (item ++ [t]) ts
    | none =>
      if t = ⟨.mark, ","⟩ then (itemsFrom 0 [] ts).map fun r => (item :: r.1, r.2)
      else some ([item], ts)

/-- A list in parentheses, and what stands behind it. -/
def items? : List Token → Option (List (List Token) × List Token)
  | ⟨.mark, "("⟩ :: ⟨.mark, ")"⟩ :: rest => some ([], rest)
  | ⟨.mark, "("⟩ :: ts => itemsFrom 0 [] ts
  | _ => none

/-- All parentheses are closed, and no comma stands outside. -/
def IsItem (ts : List Token) : Prop := runOpen 0 ts = some 0

instance (ts : List Token) : Decidable (IsItem ts) :=
  inferInstanceAs (Decidable (runOpen 0 ts = some 0))

variable {ts us rest : List Token} {t : Token} {depth depth' : Nat} {items : List (List Token)}

theorem runOpen_append (depth : Nat) (ts us : List Token) :
    runOpen depth (ts ++ us) = (runOpen depth ts).bind fun d => runOpen d us := by
  induction ts generalizing depth with
  | nil => rfl
  | cons t ts ih =>
    rw [List.cons_append, runOpen, runOpen, Option.bind_assoc]
    exact congrArg _ (funext fun d => ih d)

/-- A token that is no mark belongs to its item. -/
theorem stepOpen_of_kind_ne (h : t.kind ≠ .mark) (depth : Nat) : stepOpen depth t = some depth := by
  have hne : ∀ s : String, t ≠ ⟨.mark, s⟩ := by
    rintro s rfl
    exact h rfl
  simp [stepOpen, hne]

namespace IsItem

theorem append (ht : IsItem ts) (hu : IsItem us) : IsItem (ts ++ us) := by
  rw [IsItem, runOpen_append, ht]
  exact hu

theorem cons (h : t.kind ≠ .mark) (hts : IsItem ts) : IsItem (t :: ts) := by
  rw [IsItem, runOpen, stepOpen_of_kind_ne h]
  exact hts

theorem singleton (h : t.kind ≠ .mark) : IsItem [t] := cons h rfl

end IsItem

/-- What belongs to an item is read as part of it. -/
theorem itemsFrom_append (h : runOpen depth ts = some depth') (item us : List Token) :
    itemsFrom depth item (ts ++ us) = itemsFrom depth' (item ++ ts) us := by
  induction ts generalizing depth item with
  | nil =>
    obtain rfl := Option.some.inj h
    simp
  | cons t ts ih =>
    obtain ⟨d, hd, hrest⟩ := Option.bind_eq_some_iff.1 h
    rw [List.cons_append, itemsFrom, hd]
    dsimp only
    rw [ih hrest, List.append_assoc, List.singleton_append]

/-- Items are read as they are written. -/
theorem itemsFrom_intercalate (hne : items ≠ []) (h : ∀ item ∈ items, IsItem item)
    (rest : List Token) :
    itemsFrom 0 [] (List.intercalate [⟨.mark, ","⟩] items ++ ⟨.mark, ")"⟩ :: rest) =
      some (items, rest) := by
  induction items with
  | nil => exact absurd rfl hne
  | cons item others ih =>
    have hitem := h item List.mem_cons_self
    cases others with
    | nil =>
      have hlast : List.intercalate [⟨.mark, ","⟩] [item] = item := by simp [List.intercalate]
      rw [hlast, itemsFrom_append hitem]
      rfl
    | cons next others =>
      have hrest := ih (List.cons_ne_nil _ _) fun i hi => h i (List.mem_cons_of_mem _ hi)
      have hcomma : stepOpen 0 ⟨.mark, ","⟩ = none := rfl
      rw [List.intercalate_cons_cons, List.append_assoc, List.append_assoc,
        itemsFrom_append hitem, List.nil_append, List.singleton_append, itemsFrom, hcomma]
      dsimp only
      rw [if_pos rfl, hrest]
      rfl

theorem items?_of_ne (h : t ≠ ⟨.mark, ")"⟩) (ts : List Token) :
    items? (⟨.mark, "("⟩ :: t :: ts) = itemsFrom 0 [] (t :: ts) := by
  unfold items?
  split
  · next heq =>
    injection heq with _ heq
    injection heq with ht
    exact absurd ht h
  · next heq =>
    injection heq with _ heq
    rw [heq]
  · next hother => exact absurd rfl (hother _)

/-- The tokens of a list in parentheses. -/
def listTokens (items : List (List Token)) : List Token :=
  ⟨.mark, "("⟩ :: (List.intercalate [⟨.mark, ","⟩] items ++ [⟨.mark, ")"⟩])

/-- **A list in parentheses is read as it is written.** -/
theorem items?_listTokens (h : ∀ item ∈ items, IsItem item) (hne : [] ∉ items)
    (rest : List Token) : items? (listTokens items ++ rest) = some (items, rest) := by
  have hlist : listTokens items ++ rest =
      ⟨.mark, "("⟩ :: (List.intercalate [⟨.mark, ","⟩] items ++ ⟨.mark, ")"⟩ :: rest) := by
    simp [listTokens]
  rw [hlist]
  cases items with
  | nil => rfl
  | cons item others =>
    have hread := itemsFrom_intercalate (List.cons_ne_nil item others) h rest
    cases item with
    | nil => exact absurd List.mem_cons_self hne
    | cons t ts =>
      -- the first item does not begin with the parenthesis that closes the list
      have hfirst : t ≠ ⟨.mark, ")"⟩ := by
        rintro rfl
        cases (h _ List.mem_cons_self : runOpen 0 _ = some 0)
      have htokens : ∃ more, List.intercalate [⟨.mark, ","⟩] ((t :: ts) :: others) = t :: more := by
        cases others with
        | nil => exact ⟨ts, by simp [List.intercalate]⟩
        | cons next others => exact ⟨_, by rw [List.intercalate_cons_cons, List.cons_append]; rfl⟩
      obtain ⟨more, hmore⟩ := htokens
      rw [hmore, List.cons_append] at hread ⊢
      rw [items?_of_ne hfirst, hread]

/-- Templates with commas between them are the items that they are written as. -/
theorem Template.solidTokens_commas (g : Nat → Token) (parts : List Template) :
    solidTokens g (join ", " parts) =
      List.intercalate [⟨.mark, ","⟩] (parts.map (solidTokens g)) := by
  have hcomma : solid ", " = [⟨.mark, ","⟩] := by decide
  induction parts with
  | nil => rfl
  | cons t rest ih =>
    cases rest with
    | nil => simp [join, List.intercalate]
    | cons u rest =>
      rw [solidTokens_join_cons, ih, hcomma]
      simp only [List.map_cons, List.intercalate_cons_cons]

/-- Placeholders in a row are written as the tokens of their parameters. -/
theorem Param.map_tokenAt_placed (front params back : List Param) :
    (List.range' (front.length + 1) params.length).map
      (tokenAt (front ++ (params ++ back))) = params.map token := by
  refine List.ext_getElem (by simp) fun i hi hi' => ?_
  have hlt : i < params.length := by simpa using hi
  have hplaced : tokenAt (front ++ (params ++ back)) (i + 1 + front.length) =
      tokenAt params (i + 1) := tokenAt_placed front back (by omega) (by omega)
  have hnumber : front.length + 1 + i = i + 1 + front.length := by omega
  rw [List.getElem_map, List.getElem_range', Nat.one_mul, hnumber, hplaced]
  simp [tokenAt, hlt]

theorem Template.map_solidTokens_slotsFrom (front params back : List Param) :
    (slotsFrom (front.length + 1) params.length).map
      (solidTokens (Param.tokenAt (front ++ (params ++ back)))) =
        params.map fun p => [p.token] := by
  have htokens := congrArg (List.map fun t : Token => [t])
    (Param.map_tokenAt_placed front params back)
  simpa [slotsFrom, Function.comp_def, Template.slot, solidTokens] using htokens

theorem Param.kind_token_ne (p : Param) : p.token.kind ≠ .mark := by
  rw [token]
  cases h : p.kind? with
  | none => simp
  | some kind =>
    rintro rfl
    exact kind?_ne_mark p h

/-! ### Lists of names -/

/-- Names as items. -/
def nameItems (names : List String) : List (List Token) :=
  names.map fun name => [(Param.ident name).token]

/-- The names that items are, if all are names. -/
def names? (items : List (List Token)) : Option (List String) :=
  items.mapM fun item =>
    match item with
    | [⟨.name name, _⟩] => some name
    | _ => none

theorem names?_nameItems (names : List String) : names? (nameItems names) = some names := by
  induction names with
  | nil => rfl
  | cons name rest ih =>
    have hrest : (nameItems rest).mapM _ = some rest := ih
    rw [names?, nameItems, List.map_cons, List.mapM_cons]
    exact (congrArg (Option.bind · _) hrest).trans rfl

theorem items?_nameItems (names : List String) (rest : List Token) :
    items? (listTokens (nameItems names) ++ rest) = some (nameItems names, rest) := by
  refine items?_listTokens (fun item hitem => ?_) (by simp [nameItems]) rest
  obtain ⟨name, -, rfl⟩ := List.mem_map.1 hitem
  exact .singleton (Param.kind_token_ne _)

end Sql

end DocStore
