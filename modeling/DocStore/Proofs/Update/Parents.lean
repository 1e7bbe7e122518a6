import DocStore.Proofs.Update.Steps
import Mathlib.Data.List.Nodup

/-!
# Objects above members

Members are put into a column behind pairs that make sure of the objects above them.  There is one
pair for each path that begins one of the members' paths and is shorter, and none for any other; an
object comes before what is inside it (`Step.ensures_allParents`).  So no pair finds its own parent
missing, and no object is made again when it has been filled.
-/

namespace DocStore

open Sql

namespace Step

variable {paths : List (List String)} {p q : List String} {c : Template} {n : Nat}

/-! ### The order of the paths -/

theorem nodup_eraseDups {α : Type} [BEq α] [LawfulBEq α] : (as : List α) → as.eraseDups.Nodup
  | [] => by simp
  | a :: rest => by
    -- what is equal to the first is not among the others
    rw [List.eraseDups_cons, List.nodup_cons]
    exact ⟨by simp, nodup_eraseDups (rest.filter fun b => !b == a)⟩
termination_by as => as.length
decreasing_by exact Nat.lt_succ_of_le (List.length_filter_le _ rest)

/-- Every path is there once. -/
theorem nodup_allParents (paths : List (List String)) : (allParents paths).Nodup := by
  unfold allParents
  exact List.nodup_mergeSort.2 (nodup_eraseDups _)

/-- The beginnings of a path come before it. -/
theorem mem_front_of_prefix {front back : List (List String)}
    (hsplit : allParents paths = front ++ q :: back) (hne : p ≠ []) (hinside : p <+: q)
    (hstrict : p ≠ q) : p ∈ front := by
  have hparents := areParents_allParents paths
  have hq : q ∈ allParents paths := by simp [hsplit]
  obtain ⟨-, r, hr, hqr, hqne⟩ := (hparents.mem_iff q).1 hq
  have hshorter : p.length < q.length :=
    Nat.lt_of_le_of_ne hinside.length_le fun hlength => hstrict (hinside.eq_of_length hlength)
  have hp : p ∈ allParents paths := by
    refine (hparents.mem_iff p).2 ⟨hne, r, hr, hinside.trans hqr, ?_⟩
    rintro rfl
    have hle := hqr.length_le
    omega
  have hsorted := hparents.sorted
  rw [hsplit] at hp hsorted
  obtain ⟨-, hlater, -⟩ := List.pairwise_append.1 hsorted
  rcases List.mem_append.1 hp with hp | hp
  · exact hp
  · rcases List.mem_cons.1 hp with rfl | hp
    · exact absurd rfl hstrict
    · have hle := (List.pairwise_cons.1 hlater).1 p hp
      omega

/-! ### The pairs -/

/-- The pair that makes sure of an object: what stands at the path stays, and an empty object comes
where nothing does.  The path is parameter `n`. -/
def parentPair (c : Template) (n : Nat) : Template :=
  sql [.slot n, ", COALESCE(JSON_EXTRACT(", c, ", ", .slot n, "), JSON_OBJECT())"]

/-- The step makes sure of the objects at these paths, in this order, and of no others; only then it
puts members.  Each pair takes one parameter, which is its path. -/
structure Ensures (s : Step) (above : List (List String)) : Prop where
  text : ∀ c n, ∃ others, s.text c n =
      setText c ((List.range' n above.length).map (parentPair c) ++ others) ∧
    ∀ t ∈ others, ∀ m, t ≠ parentPair c m
  params : s.params.take above.length = above.map pathParam

/-- A pair that puts a member makes sure of nothing. -/
theorem amountPair_ne_parentPair (c : Template) (i m : Nat) :
    sql [.slot i, ", COALESCE(JSON_EXTRACT(", c, ", ", .slot i, "), 0) + ", .slot (i + 1)] ≠
      parentPair c m := by
  intro heq
  have hlength := congrArg List.length heq
  simp [parentPair, sql, Template.slot] at hlength

theorem valuePair_ne_parentPair (c : Template) (i m : Nat) :
    sql [.slot i, ", CAST(", .slot (i + 1), " AS JSON)"] ≠ parentPair c m := by
  intro heq
  simp [parentPair, sql, Template.slot] at heq

theorem ensures_addMembers (amounts : List (List String × Json)) :
    (addMembers amounts).Ensures (allParents (amounts.map Prod.fst)) where
  text c n := by
    refine ⟨_, rfl, fun t ht m => ?_⟩
    obtain ⟨i, -, rfl⟩ := List.mem_map.1 ht
    exact amountPair_ne_parentPair c i m
  params := by simp [params]

theorem ensures_setMembers (values : List (List String × Json)) :
    (setMembers values).Ensures (allParents (values.map Prod.fst)) where
  text c n := by
    refine ⟨_, rfl, fun t ht m => ?_⟩
    obtain ⟨i, -, rfl⟩ := List.mem_map.1 ht
    exact valuePair_ne_parentPair c i m
  params := by simp [params]

/-- **Objects come before what is inside them.**  The paths that members are put behind are the
beginnings of the members' paths, but for the empty one and the paths themselves.  Each is there
once, none in front of a shorter one, and so every path has its own beginnings in front of it.  The
steps make sure of an object at each of them, in this order and with one parameter each, and of no
other. -/
theorem ensures_allParents (paths : List (List String)) :
    (∀ q, q ∈ allParents paths ↔ ∃ p ∈ paths, q ≠ [] ∧ q <+: p ∧ q ≠ p) ∧
      (allParents paths).Nodup ∧
      (allParents paths).Pairwise (fun p q => p.length ≤ q.length) ∧
      (∀ front q back, allParents paths = front ++ q :: back →
        ∀ p, p ≠ [] → p <+: q → p ≠ q → p ∈ front) ∧
      ∀ entries : List (List String × Json), entries.map Prod.fst = paths →
        (addMembers entries).Ensures (allParents paths) ∧
          (setMembers entries).Ensures (allParents paths) := by
  have hparents := areParents_allParents paths
  refine ⟨fun q => ?_, nodup_allParents paths, hparents.sorted, ?_, ?_⟩
  · rw [hparents.mem_iff]
    constructor
    · rintro ⟨hne, p, hp, hinside, hstrict⟩
      exact ⟨p, hp, hne, hinside, hstrict⟩
    · rintro ⟨p, hp, hne, hinside, hstrict⟩
      exact ⟨hne, p, hp, hinside, hstrict⟩
  · intro front q back hsplit p hne hinside hstrict
    exact mem_front_of_prefix hsplit hne hinside hstrict
  · rintro entries rfl
    exact ⟨ensures_addMembers entries, ensures_setMembers entries⟩

/-- Members at several depths, two of them in one object. -/
def townEntries : List (List String × Json) :=
  [(["hall", "clock", "hour"], .ofInt 7), (["hall", "clock", "face"], .str "west"),
    (["hall", "doors"], .ofInt 2), (["park", "trees"], .ofInt 40), (["name"], .str "Oak")]

theorem ensures_allParents_town :
    townEntries.map Prod.fst = [["hall", "clock", "hour"], ["hall", "clock", "face"],
        ["hall", "doors"], ["park", "trees"], ["name"]] ∧
      (setMembers townEntries).Ensures [["hall"], ["park"], ["hall", "clock"]] ∧
      ["hall"] <+: ["hall", "clock"] ∧ ["hall"] ∈ [["hall"], ["park"]] := by
  have hpaths : townEntries.map Prod.fst = [["hall", "clock", "hour"], ["hall", "clock", "face"],
      ["hall", "doors"], ["park", "trees"], ["name"]] := rfl
  have hparents : ((townEntries.map Prod.fst).flatMap parents).eraseDups =
      [["hall"], ["hall", "clock"], ["park"]] := by
    decide +kernel
  have habove : allParents (townEntries.map Prod.fst) =
      [["hall"], ["park"], ["hall", "clock"]] := by
    rw [allParents, hparents]
    simp [List.mergeSort, List.MergeSort.Internal.splitInTwo]
  obtain ⟨-, -, -, hfront, hensures⟩ := ensures_allParents (townEntries.map Prod.fst)
  rw [habove] at hfront hensures
  have hinside : ["hall"] <+: ["hall", "clock"] := by decide
  exact ⟨hpaths, (hensures townEntries rfl).2, hinside,
    hfront [["hall"], ["park"]] _ [] rfl ["hall"] (by decide) hinside (by decide)⟩

end Step

end DocStore
