import DocStore.Proofs.Command.Condition
import DocStore.Proofs.Command.Tokens

/-!
# Clauses of commands

What a database takes from the text of an update or a selection is which rows it is about: those
that satisfy the condition behind `WHERE`, and of these as many as `LIMIT` says.  Both can be read
off the tokens of the text (`conditionOf`, `limitOf`).

No condition has a word that begins a clause (`Filter.mute_whereClause`), whatever its parameters
are.  So what is read off an update and off a selection with one filter is the same condition
(`Command.conditionOf_update`, `Command.conditionOf_select`).
-/

namespace DocStore

open Sql

namespace Sql

/-! ### Reading clauses -/

/-- The words that begin what may stand behind a condition, and the condition itself. -/
def clauseWords : List Token := [⟨.word, "WHERE"⟩, ⟨.word, "ORDER"⟩, ⟨.word, "LIMIT"⟩]

/-- What stands behind the last token that is this one; everything if none is. -/
def behindLast (t : Token) (ts : List Token) : List Token :=
  (ts.reverse.takeWhile fun u => u != t).reverse

/-- The condition behind `WHERE`, up to the next clause. -/
def conditionOf (ts : List Token) : List Token :=
  (behindLast ⟨.word, "WHERE"⟩ ts).takeWhile fun t => !clauseWords.contains t

/-- The number behind `LIMIT`. -/
def limitOf (ts : List Token) : Option Nat :=
  match behindLast ⟨.word, "LIMIT"⟩ ts with
  | [⟨.number, source⟩] => some (Nat.ofDigitChars 10 source.toList 0)
  | _ => none

variable {t : Token} {front condition behind : List Token}

theorem behindLast_append (front : List Token) (h : t ∉ behind) :
    behindLast t (front ++ t :: behind) = behind := by
  have hbehind : ∀ u ∈ behind.reverse, (u != t) = true := by
    intro u hu
    rw [bne_iff_ne]
    rintro rfl
    exact h (List.mem_reverse.1 hu)
  rw [behindLast, List.reverse_append, List.reverse_cons, List.append_assoc,
    List.takeWhile_append_of_pos hbehind]
  simp

/-- A condition without clause words, in front of another clause or of nothing. -/
theorem conditionOf_append (front : List Token) (hcondition : ∀ t ∈ condition, t ∉ clauseWords)
    (hbehind : ⟨.word, "WHERE"⟩ ∉ behind) (hhead : ∀ t ∈ behind.head?, t ∈ clauseWords) :
    conditionOf (front ++ ⟨.word, "WHERE"⟩ :: (condition ++ behind)) = condition := by
  have hwhere : ⟨.word, "WHERE"⟩ ∉ condition ++ behind := by
    rw [List.mem_append, not_or]
    exact ⟨fun h => hcondition _ h (by decide), hbehind⟩
  have hpass : ∀ t ∈ condition, (!clauseWords.contains t) = true := by
    simpa using hcondition
  rw [conditionOf, behindLast_append front hwhere, List.takeWhile_append_of_pos hpass]
  cases behind with
  | nil => simp
  | cons t rest =>
    have ht : t ∈ clauseWords := hhead t rfl
    simp [ht]

theorem limitOf_append (front : List Token) (n : Nat) :
    limitOf (front ++ [⟨.word, "LIMIT"⟩, ⟨.number, toString n⟩]) = some n := by
  rw [limitOf, behindLast_append front (by simp)]
  simp

/-! ### Templates without clauses -/

/-- A text in which no clause begins. -/
def mute (s : String) : Bool := (solid s).all fun t => !clauseWords.contains t

namespace Template

/-- No clause begins in the texts of a template. -/
def Mute (t : Template) : Prop := Fits (.ofTokens fun token => !clauseWords.contains token) () t

/-- Where placeholders are written as tokens that begin no clause, no token does. -/
theorem Mute.not_mem_clauseWords {t : Template} {g : Nat → Token} (h : Mute t)
    (hg : ∀ n, g n ∉ clauseWords) : ∀ token ∈ solidTokens g t, token ∉ clauseWords := by
  intro token htoken
  rcases h.mem_solidTokens htoken with hmute | ⟨n, rfl⟩
  · simpa using hmute
  · exact hg n

end Template

/-- What is written for the placeholders of a template makes its tokens. -/
theorem Template.solidTokens_congr {t : Template} {lo hi : Nat} (h : t.Within lo hi)
    {g g' : Nat → Token} (hg : ∀ n, lo ≤ n → n < hi → g n = g' n) :
    solidTokens g t = solidTokens g' t := by
  induction t with
  | nil => rfl
  | cons p t ih =>
    obtain ⟨hp, ht⟩ := within_cons.1 h
    cases p with
    | text s => exact congrArg (solid s ++ ·) (ih ht)
    | slot n => exact congrArg₂ List.cons (hg n hp.1 hp.2) (ih ht)
    | wide n => exact hp.elim

theorem Param.tokenAt_placed {params : List Param} (front back : List Param) {n : Nat} (h1 : 1 ≤ n)
    (h2 : n < params.length + 1) :
    tokenAt (front ++ (params ++ back)) (n + front.length) = tokenAt params n := by
  have hbehind : n + front.length - 1 = front.length + (n - 1) := by omega
  have hlt : n - 1 < params.length := by omega
  rw [tokenAt, hbehind, List.getElem?_append_right (by omega), Nat.add_sub_cancel_left,
    List.getElem?_append_left hlt, tokenAt]

/-- What stands for a parameter begins no clause. -/
theorem Param.tokenAt_not_mem_clauseWords {params : List Param} (h : AllTokens params) (n : Nat) :
    tokenAt params n ∉ clauseWords := by
  rcases tokenAt_cases params n with htoken | ⟨p, hp, htoken⟩
  · rw [htoken]
    decide
  · obtain ⟨kind, hkind⟩ := Option.isSome_iff_exists.1 (h p hp)
    rw [htoken, token, hkind, Option.getD_some]
    cases kind with
    | word =>
      have hwords := mem_words_of_kind? hkind
      simp only [List.mem_cons, List.not_mem_nil, or_false] at hwords
      rcases hwords with hword | hword | hword | hword <;> rw [hword] <;> decide
    | name content | string content | number => simp [clauseWords]
    | mark => exact absurd hkind (kind?_ne_mark p)

end Sql

open Template (Mute)

/-! ### Conditions -/

theorem Target.mute_text (x : Target) (n : Nat) : Mute (x.text n) := by
  unfold text
  split
  · exact .slot rfl (.text rfl (.slot rfl .nil))
  · exact ⟨rfl, trivial⟩

namespace Test

variable {x : Template} {n : Nat}

theorem mute_containment (hx : Mute x) (n : Nat) {expected : String} (h : mute expected = true) :
    Mute (containment x n expected) :=
  .text rfl (.part hx rfl (.text rfl (.slot rfl (.text rfl (.text h .nil)))))

theorem mute_containments (hx : Mute x) {expected : String} (h : mute expected = true)
    (count : Nat) : ∀ t ∈ containments x expected n count, Mute t := by
  intro t ht
  obtain ⟨i, -, rfl⟩ := List.mem_map.1 ht
  exact mute_containment hx i h

theorem mute_distance (hx : Mute x) (n : Nat) : Mute (distance x n) :=
  .text rfl (.part hx rfl (.text rfl (.slot rfl (.text rfl .nil))))

theorem mute_symbol (relation : Relation) : mute relation.symbol = true := by
  cases relation with
  | equal | different => rfl
  | ordered comparison => cases comparison <;> rfl

theorem mute_condition (hx : Mute x) (t : Test) : Mute (t.condition x n) := by
  induction t with
  | always => exact ⟨rfl, trivial⟩
  | isNull | isPresent => exact .part hx rfl (.text rfl .nil)
  | scalar relation operand =>
    exact .part hx rfl (.text rfl (.text (mute_symbol relation) (.text rfl (.slot rfl .nil))))
  | among operands | notAmong operands =>
    exact .part hx rfl (.text rfl (.part (.join rfl rfl (.slotsFrom rfl operands.length)) rfl
      (.text rfl .nil)))
  | holds items | lacks items => exact mute_containment hx n rfl
  | holdsAny items | holdsNone items =>
    exact .text rfl (.part (.join rfl rfl (mute_containments hx rfl items.length)) rfl
      (.text rfl .nil))
  | atPoint wkt | notAtPoint wkt | regex pattern | text term =>
    exact .text rfl (.part hx rfl (.text rfl (.slot rfl (.text rfl .nil))))
  | near origin reach =>
    cases reach with
    | none => exact .part hx rfl (.text rfl .nil)
    | some meters =>
      exact .part (mute_distance hx n) rfl (.text rfl (.slot rfl .nil))
  | inBox corner opposite | inPolygon ring =>
    exact .text rfl (.slot rfl (.text rfl (.part hx rfl (.text rfl .nil))))
  | orNull test ih => exact .text rfl (.part ih rfl (.text rfl (.part hx rfl (.text rfl .nil))))
  | nullOr test ih | presentAnd test ih =>
    exact .text rfl (.part hx rfl (.text rfl (.part ih rfl (.text rfl .nil))))

theorem mute_sort? (hx : Mute x) {t : Test} {order : Template} (h : t.sort? x n = some order) :
    Mute order := by
  unfold sort? at h
  split at h
  · cases h
    exact .part (mute_distance hx n) rfl (.text rfl .nil)
  · cases h

end Test

namespace WhereClause

/-- No clause begins in a condition, and none in the order that it asks for. -/
structure Mute (w : WhereClause) : Prop where
  pattern : Template.Mute w.pattern
  sorts : ∀ t ∈ w.sorts, Template.Mute t

theorem Mute.condition {w : WhereClause} (h : w.Mute) : Template.Mute w.condition := by
  unfold WhereClause.condition
  split
  · exact ⟨rfl, trivial⟩
  · exact h.pattern

theorem mute_ofTests (x : Target) (tests : List Test) : (ofTests x tests).Mute where
  pattern := by
    refine .join rfl rfl fun t ht => ?_
    obtain ⟨e, -, rfl⟩ := List.mem_map.1 ht
    exact Test.mute_condition (x.mute_text 1) e.2
  sorts := by
    intro t ht
    obtain ⟨e, -, ht⟩ := List.mem_filterMap.1 ht
    exact Test.mute_sort? (x.mute_text 1) ht

theorem isKept_mute : IsKept Mute where
  none := ⟨trivial, nofun⟩
  ofTests := mute_ofTests
  beside connective a b ha hb := by
    have hsymbol : mute (" " ++ connective.symbol ++ " ") = true := by cases connective <;> rfl
    refine ⟨.part ha.pattern rfl (.text hsymbol (.part (hb.pattern.shift _) rfl .nil)),
      fun t ht => ?_⟩
    rcases List.mem_append.1 ht with ht | ht
    · exact ha.sorts t ht
    · obtain ⟨u, hu, rfl⟩ := List.mem_map.1 ht
      exact (hb.sorts u hu).shift _
  parenthesized _ h := ⟨.text rfl (.part h.pattern rfl (.text rfl .nil)), h.sorts⟩
  spelled _ h := ⟨h.condition, h.sorts⟩

end WhereClause

/-- **No clause begins in a filter's condition.** -/
theorem Filter.mute_whereClause (f : Filter) : f.whereClause.Mute :=
  WhereClause.isKept_mute.whereClause f

/-- The tokens of a filter's condition. -/
def Filter.conditionTokens (f : Filter) : List Token :=
  f.whereClause.condition.solidTokens (Param.tokenAt f.whereClause.params)

theorem Filter.not_mem_clauseWords (f : Filter) : ∀ t ∈ f.conditionTokens, t ∉ clauseWords :=
  f.mute_whereClause.condition.not_mem_clauseWords
    (Param.tokenAt_not_mem_clauseWords f.clear_whereClause.params)

/-- The condition of a filter has the same tokens behind the parameters `front` and in front of the
parameters `back`. -/
theorem Filter.solidTokens_condition (f : Filter) (front back : List Param) :
    (f.whereClause.shift front.length).condition.solidTokens
        (Param.tokenAt (front ++ (f.whereClause.params ++ back))) = f.conditionTokens := by
  have hscoped := f.scoped_whereClause.condition
  rw [WhereClause.condition_shift, Template.solidTokens_shift hscoped.narrow, conditionTokens]
  exact Template.solidTokens_congr hscoped fun n h1 h2 => Param.tokenAt_placed front back h1 h2

/-! ### Updates and selections -/

namespace Selection

/-- The rows that a filter finds, all columns and in no order that the caller wishes. -/
def plain (f : Filter) (limit : Option Nat) : Selection := ⟨f, [], false, [], limit, none⟩

variable (table : String) (f : Filter) (limit : Option Nat)

theorem wished_plain : (plain f limit).wished = [] := ite_self _

theorem params_plain :
    ((plain f limit).statement table).params =
      .ident table :: (f.whereClause.params ++
        (plain f limit).counts.map fun e => countParam e.2) := by
  rw [params_statement, wished_plain]
  simp [plain, scoreRead, placed]

theorem firstCount_plain : (plain f limit).firstCount = f.whereClause.params.length + 2 := by
  have hlength : (plain f limit).placed.params.length = f.whereClause.params.length := rfl
  rw [firstCount, wished_plain, firstOrder, scoreNumber, firstColumn, hlength]
  simp [plain, scoreRead]
  omega

/-- The text of a limit is a clause with its number. -/
theorem solidTokens_counts_plain :
    (countParts (plain f limit).firstCount (plain f limit).counts).solidTokens
        (Param.tokenAt ((plain f limit).statement table).params) =
      (limit.map fun n => [⟨.word, "LIMIT"⟩, ⟨.number, toString n⟩]).getD [] := by
  cases limit with
  | none => rfl
  | some n =>
    have hkeyword : solid " LIMIT " = [⟨.word, "LIMIT"⟩] := rfl
    have hcounts : (plain f (some n)).counts = [(" LIMIT ", n)] := rfl
    have hnumber : (countParam n).token = ⟨.number, toString n⟩ := rfl
    -- the number is the last parameter, behind the table and those of the condition
    have htoken : Param.tokenAt ((plain f (some n)).statement table).params
        (plain f (some n)).firstCount = (countParam n).token := by
      rw [params_plain, firstCount_plain, hcounts, Param.tokenAt]
      simp
    simp [hcounts, countParts, hkeyword, Template.slot, Template.solidTokens, htoken, hnumber]

/-- An order is a clause of its own. -/
theorem solidTokens_listAfter {sorts : List Template} {g : Nat → Token}
    (hg : ∀ n, g n ∉ clauseWords) (hsorts : ∀ t ∈ sorts, Mute t) :
    (∀ t ∈ ((listAfter " ORDER BY " sorts).solidTokens g).head?, t ∈ clauseWords) ∧
      ⟨.word, "WHERE"⟩ ∉ (listAfter " ORDER BY " sorts).solidTokens g := by
  cases sorts with
  | nil => simp [listAfter, Template.solidTokens]
  | cons t rest =>
    have horder : solid " ORDER BY " = [⟨.word, "ORDER"⟩, ⟨.word, "BY"⟩] := rfl
    have hitems : Mute (Template.join ", " (t :: rest)) := .join rfl rfl hsorts
    have hwhere : ⟨.word, "WHERE"⟩ ∉ (Template.join ", " (t :: rest)).solidTokens g :=
      fun h => hitems.not_mem_clauseWords hg _ h (by decide)
    simp [listAfter, horder, hwhere, clauseWords]

end Selection

namespace Command

variable (table : String) (changes : List Change) (f : Filter)

theorem tokens_update : ∃ front,
    (update table changes f).tokens = front ++ ⟨.word, "WHERE"⟩ :: f.conditionTokens := by
  let set := (SetClause.ofChanges changes).shift 1
  let g := Param.tokenAt (.ident table :: set.params ++ f.whereClause.params)
  -- in front of the condition stand the table and the parameters of the assignments
  have hcondition : (f.whereClause.shift (1 + set.params.length)).condition.solidTokens g =
      f.conditionTokens := by
    have hplaced := f.solidTokens_condition (.ident table :: set.params) []
    rw [List.append_nil, List.length_cons, Nat.add_comm] at hplaced
    exact hplaced
  have htokens : (update table changes f).tokens =
      (sql ["UPDATE ", .slot 1, " SET ", .join ", " set.assignments]).solidTokens g ++
        ⟨.word, "WHERE"⟩ ::
          (f.whereClause.shift (1 + set.params.length)).condition.solidTokens g := by
    have hwhere : solid " WHERE " = [⟨.word, "WHERE"⟩] := rfl
    simp [tokens, toStatement, Statement.updateRows, hwhere, set, g]
  rw [hcondition] at htokens
  exact ⟨_, htokens⟩

theorem tokens_select (limit : Option Nat) : ∃ front order,
    (select table (.plain f limit)).tokens =
      front ++ ⟨.word, "WHERE"⟩ :: (f.conditionTokens ++ (order ++
        (limit.map fun n => [⟨.word, "LIMIT"⟩, ⟨.number, toString n⟩]).getD [])) ∧
    (∀ t ∈ order.head?, t ∈ clauseWords) ∧ ⟨.word, "WHERE"⟩ ∉ order := by
  let s := Selection.plain f limit
  let params := (s.statement table).params
  have hcondition : s.placed.condition.solidTokens (Param.tokenAt params) = f.conditionTokens := by
    rw [show params = _ from Selection.params_plain table f limit]
    exact f.solidTokens_condition [.ident table] _
  have hlimit := Selection.solidTokens_counts_plain table f limit
  have htokens : (select table (.plain f limit)).tokens =
      (sql ["SELECT ", "*", " FROM ", .slot 1]).solidTokens (Param.tokenAt params) ++
        ⟨.word, "WHERE"⟩ :: (s.placed.condition.solidTokens (Param.tokenAt params) ++
          ((Selection.listAfter " ORDER BY " s.placed.sorts).solidTokens (Param.tokenAt params) ++
            (Selection.countParts s.firstCount s.counts).solidTokens (Param.tokenAt params))) := by
    have hwhere : solid " WHERE " = [⟨.word, "WHERE"⟩] := rfl
    have hcolumns : s.columnTexts = [] := rfl
    have horder : s.orderTexts = s.placed.sorts := by
      rw [Selection.orderTexts, Selection.wished_plain, OrderItem.texts, List.append_nil]
    simp [tokens, toStatement, Selection.text_statement, hcolumns, horder, hwhere, s, params]
  rw [hcondition, hlimit] at htokens
  have hparams : ∀ n, Param.tokenAt params n ∉ clauseWords :=
    Param.tokenAt_not_mem_clauseWords (s.clear_statement table).params
  have hmute : ∀ t ∈ s.placed.sorts, Mute t := by
    intro t ht
    obtain ⟨u, hu, rfl⟩ := List.mem_map.1 ht
    exact (f.mute_whereClause.sorts u hu).shift 1
  exact ⟨_, _, htokens, Selection.solidTokens_listAfter hparams hmute⟩

/-- **What an update changes are the rows of its filter.** -/
theorem conditionOf_update : conditionOf (update table changes f).tokens = f.conditionTokens := by
  obtain ⟨front, htokens⟩ := tokens_update table changes f
  have hcondition := conditionOf_append front f.not_mem_clauseWords List.not_mem_nil (by simp)
  rwa [List.append_nil, ← htokens] at hcondition

/-- **What a selection reads are the rows of its filter**, as many as its limit says. -/
theorem conditionOf_select (limit : Option Nat) :
    conditionOf (select table (.plain f limit)).tokens = f.conditionTokens := by
  obtain ⟨front, order, htokens, hhead, horder⟩ := tokens_select table f limit
  rw [htokens]
  refine conditionOf_append front f.not_mem_clauseWords ?_ ?_
  · cases limit <;> simp [horder]
  · cases order with
    | nil => cases limit <;> simp [clauseWords]
    | cons t rest => exact hhead

theorem limitOf_select (n : Nat) : limitOf (select table (.plain f (some n))).tokens = some n := by
  obtain ⟨front, order, htokens, -⟩ := tokens_select table f (some n)
  have hlimit := limitOf_append (front ++ ⟨.word, "WHERE"⟩ :: (f.conditionTokens ++ order)) n
  rw [htokens]
  simpa using hlimit

end Command

end DocStore
