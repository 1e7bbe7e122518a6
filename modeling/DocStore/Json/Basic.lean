import DocStore.Number.Binary64

/-!
# JSON values

A JSON value whose objects remember the order of their keys.  Numbers are integers or binary
floating point numbers and never change from one kind to the other.

An `Object` is the list of its entries.  Putting a value under a key that is present keeps the
key's place; a new key goes to the end.  Removing an entry moves the last entry into its place,
so the order of the other keys may change (`Object.erase`).
-/

namespace DocStore

/-- A JSON number. -/
inductive Number where
  | int (value : Int)
  | float (value : Binary64)
  deriving DecidableEq, Repr

/-- A JSON value. -/
inductive Json where
  | null
  | bool (value : Bool)
  | num (value : Number)
  | str (value : String)
  | arr (items : List Json)
  | obj (entries : List (String × Json))
  deriving Repr

/-- The entries of a JSON object in order, with pairwise distinct keys. -/
abbrev Object := List (String × Json)

namespace Number

/-- The number as a floating point number. -/
def toFloat : Number → Binary64
  | .int n => .ofInt n
  | .float x => x

/-- The integer, if it is one and fits 64 bits with a sign. -/
def toSigned? : Number → Option Int
  | .int n => if -Int.pow 2 63 ≤ n ∧ n < Int.pow 2 63 then some n else none
  | .float _ => none

/-- The integer, if it is one, is not negative and is below `limit`. -/
def toNatBelow? (limit : Nat) : Number → Option Nat
  | .int n => if 0 ≤ n ∧ n < limit then some n.toNat else none
  | .float _ => none

end Number

namespace Object

/-- The value under a key. -/
def get? (o : Object) (key : String) : Option Json := o.lookup key

/-- Whether a key is present. -/
def contains (o : Object) (key : String) : Bool := (o.lookup key).isSome

/-- Change the value under a key, or put a first value at the end. -/
def alter (f : Option Json → Json) (key : String) : Object → Object
  | [] => [(key, f none)]
  | (k, v) :: rest => if k = key then (k, f (some v)) :: rest else (k, v) :: alter f key rest

theorem get?_alter_self (f : Option Json → Json) (key : String) (o : Object) :
    get? (alter f key o) key = some (f (get? o key)) := by
  unfold get?
  induction o with
  | nil => simp [alter]
  | cons e rest ih =>
    obtain ⟨k, v⟩ := e
    by_cases hk : k = key
    · subst hk
      simp [alter]
    · have hne : (key == k) = false := by simpa using fun h => hk h.symm
      simpa [alter, hk, List.lookup_cons, hne] using ih

theorem get?_alter_of_ne (f : Option Json → Json) {key other : String} (h : other ≠ key)
    (o : Object) : get? (alter f key o) other = get? o other := by
  unfold get?
  have hne : (other == key) = false := by simpa using h
  induction o with
  | nil => simp [alter, List.lookup_cons, hne]
  | cons e rest ih =>
    obtain ⟨k, v⟩ := e
    by_cases hk : k = key
    · subst hk
      simp [alter, List.lookup_cons, hne]
    · simp only [alter, if_neg hk, List.lookup_cons, ih]

/-- Put a value under a key; a key that is present keeps its place. -/
def insert (o : Object) (key : String) (value : Json) : Object := alter (fun _ => value) key o

theorem get?_insert_self (o : Object) (key : String) (value : Json) :
    (o.insert key value).get? key = some value :=
  get?_alter_self _ key o

theorem get?_insert_of_ne (o : Object) {key other : String} (h : other ≠ key) (value : Json) :
    (o.insert key value).get? other = o.get? other :=
  get?_alter_of_ne _ h o

/-- Remove a key; the last entry moves into the place that becomes free. -/
def erase (key : String) : Object → Object
  | [] => []
  | (k, v) :: rest =>
    if k = key then
      match rest.getLast? with
      | none => []
      | some last => last :: rest.dropLast
    else (k, v) :: erase key rest

end Object

namespace Json

mutual

/-- Equality of JSON values is decidable; the order of object keys counts. -/
def decEq : (a b : Json) → Decidable (a = b)
  | .null, .null => .isTrue rfl
  | .bool a, .bool b => if h : a = b then .isTrue (by rw [h]) else .isFalse (by simpa using h)
  | .num a, .num b => if h : a = b then .isTrue (by rw [h]) else .isFalse (by simpa using h)
  | .str a, .str b => if h : a = b then .isTrue (by rw [h]) else .isFalse (by simpa using h)
  | .arr a, .arr b =>
    match decEqItems a b with
    | .isTrue h => .isTrue (by rw [h])
    | .isFalse h => .isFalse (by simpa using h)
  | .obj a, .obj b =>
    match decEqEntries a b with
    | .isTrue h => .isTrue (by rw [h])
    | .isFalse h => .isFalse (by simpa using h)
  | .null, .bool _ => .isFalse nofun
  | .null, .num _ => .isFalse nofun
  | .null, .str _ => .isFalse nofun
  | .null, .arr _ => .isFalse nofun
  | .null, .obj _ => .isFalse nofun
  | .bool _, .null => .isFalse nofun
  | .bool _, .num _ => .isFalse nofun
  | .bool _, .str _ => .isFalse nofun
  | .bool _, .arr _ => .isFalse nofun
  | .bool _, .obj _ => .isFalse nofun
  | .num _, .null => .isFalse nofun
  | .num _, .bool _ => .isFalse nofun
  | .num _, .str _ => .isFalse nofun
  | .num _, .arr _ => .isFalse nofun
  | .num _, .obj _ => .isFalse nofun
  | .str _, .null => .isFalse nofun
  | .str _, .bool _ => .isFalse nofun
  | .str _, .num _ => .isFalse nofun
  | .str _, .arr _ => .isFalse nofun
  | .str _, .obj _ => .isFalse nofun
  | .arr _, .null => .isFalse nofun
  | .arr _, .bool _ => .isFalse nofun
  | .arr _, .num _ => .isFalse nofun
  | .arr _, .str _ => .isFalse nofun
  | .arr _, .obj _ => .isFalse nofun
  | .obj _, .null => .isFalse nofun
  | .obj _, .bool _ => .isFalse nofun
  | .obj _, .num _ => .isFalse nofun
  | .obj _, .str _ => .isFalse nofun
  | .obj _, .arr _ => .isFalse nofun

/-- Equality of lists of JSON values is decidable. -/
def decEqItems : (a b : List Json) → Decidable (a = b)
  | [], [] => .isTrue rfl
  | [], _ :: _ => .isFalse nofun
  | _ :: _, [] => .isFalse nofun
  | a :: as, b :: bs =>
    match decEq a b, decEqItems as bs with
    | .isTrue h, .isTrue hs => .isTrue (by rw [h, hs])
    | .isFalse h, _ => .isFalse fun e => h (List.cons.inj e).1
    | _, .isFalse hs => .isFalse fun e => hs (List.cons.inj e).2

/-- Equality of lists of object entries is decidable. -/
def decEqEntries : (a b : List (String × Json)) → Decidable (a = b)
  | [], [] => .isTrue rfl
  | [], _ :: _ => .isFalse nofun
  | _ :: _, [] => .isFalse nofun
  | (k, a) :: as, (l, b) :: bs =>
    match decEq a b, decEqEntries as bs with
    | .isTrue h, .isTrue hs =>
      if hk : k = l then .isTrue (by rw [h, hs, hk])
      else .isFalse fun e => hk (Prod.mk.inj (List.cons.inj e).1).1
    | .isFalse h, _ => .isFalse fun e => h (Prod.mk.inj (List.cons.inj e).1).2
    | _, .isFalse hs => .isFalse fun e => hs (List.cons.inj e).2

end

instance : DecidableEq Json := decEq

/-- An integer. -/
def ofInt (n : Int) : Json := .num (.int n)

/-- A floating point number; one that is not finite has no JSON form and is `null`. -/
def ofFloat (x : Binary64) : Json := if x.isFinite then .num (.float x) else .null

/-- The member of an object under a key; `none` for every other value. -/
def get? : Json → String → Option Json
  | .obj o, key => o.lookup key
  | _, _ => none

/-- The string, if it is one. -/
def asString? : Json → Option String
  | .str s => some s
  | _ => none

/-- The items, if it is an array. -/
def asArray? : Json → Option (List Json)
  | .arr items => some items
  | _ => none

/-- The entries, if it is an object. -/
def asObject? : Json → Option Object
  | .obj o => some o
  | _ => none

/-- The truth value, if it is one. -/
def asBool? : Json → Option Bool
  | .bool b => some b
  | _ => none

/-- The number as a floating point number. -/
def asFloat? : Json → Option Binary64
  | .num n => some n.toFloat
  | _ => none

/-- The integer that fits 64 bits with a sign. -/
def asSigned? : Json → Option Int
  | .num n => n.toSigned?
  | _ => none

/-- The natural number below `limit`. -/
def asNatBelow? (limit : Nat) : Json → Option Nat
  | .num n => n.toNatBelow? limit
  | _ => none

/-- The value is `null`. -/
def isNull : Json → Bool
  | .null => true
  | _ => false

/-- The value is an array. -/
def isArray : Json → Bool
  | .arr _ => true
  | _ => false

/-- The value is an object. -/
def isObject : Json → Bool
  | .obj _ => true
  | _ => false

/-- All items as strings, if the value is an array of strings. -/
def asStrings? : Json → Option (List String)
  | .arr items => items.mapM asString?
  | _ => none

end Json

end DocStore
