import DocStore.Json.Basic

/-!
# Reading JSON text

The reader is a machine that takes one character at a time (`Reader.step`): a stack of arrays and
objects that are still open, and a mode that says what may come next.  It is strict: blanks are
the four of the format, strings hold no raw control character and no half of a surrogate pair,
and at most 127 arrays and objects may be open at once.  Under a repeated key the last value
counts, at the place of the first.

An object whose first key is `Reader.embeddedKey` is no object: it stands for the value of the JSON
text that the key holds, and has no other key.  `Reader.readWithin` bounds how far such texts may
lie inside each other, and `Json.read?` gives it a bound that no text reaches.

Integers from `-2 ^ 63` to `2 ^ 64 - 1` stay integers.  Every other number, minus zero included,
is floating point: `Reader.toFloat?` keeps the leading digits that fit 64 bits, rounds them once,
and multiplies or divides by a rounded power of ten; a number that becomes infinite is refused.
-/

namespace DocStore

namespace Reader

/-- The reserved key of an object that stands for the text under it. -/
def embeddedKey : String := "$serde_json::private::RawValue"

/-- An array or object that is still open. -/
inductive Frame where
  /-- An array with the items so far, the last one first. -/
  | array (items : List Json)
  /-- An object that may go on with a key. -/
  | object (entries : Object)
  /-- An object whose next value belongs to `key`. -/
  | member (entries : Object) (key : String)
  /-- An object that stands for a text, before that text. -/
  | embedding
  /-- An object that stands for a text, behind that text, whose value is `v`. -/
  | embedded (v : Json)

/-- Where the machine stands inside a string. -/
inductive Escape where
  | plain
  /-- After a backslash. -/
  | started
  /-- After `\u` and some digits; `high` is the first half of a surrogate pair. -/
  | unit (high : Option Nat) (count value : Nat)
  /-- After the first half of a surrogate pair: a backslash must follow. -/
  | pair (high : Nat)
  /-- After that backslash: a `u` must follow. -/
  | pairStarted (high : Nat)

/-- What may come next. -/
inductive Mode where
  | value
  | firstItem
  | firstKey
  | key
  | colon
  | ended
  /-- Inside a string; the characters so far, the last one first. -/
  | string (asKey : Bool) (read : List Char) (escape : Escape)
  /-- Inside a number or a word; the characters so far, the last one first. -/
  | word (read : List Char)

/-- A state of the machine; `root` is the value once it is complete. -/
structure State where
  stack : List Frame
  mode : Mode
  root : Option Json

/-- The state before the first character. -/
def start : State := ⟨[], .value, none⟩

/-- The four blanks of the format. -/
def isSpace (c : Char) : Bool := c == ' ' || c == '\t' || c == '\n' || c == '\r'

/-- A decimal digit's value. -/
def digitValue (c : Char) : Nat := c.toNat - 48

/-- The value of a hexadecimal digit. -/
def hexValue? (c : Char) : Option Nat :=
  if c.isDigit then some (c.toNat - 48)
  else if 'a' ≤ c ∧ c ≤ 'f' then some (c.toNat - 87)
  else if 'A' ≤ c ∧ c ≤ 'F' then some (c.toNat - 55)
  else none

/-! ### Numbers -/

/-- The leading digits of `ds` that keep the significand below `2 ^ 64`, and the digits after
them. -/
def gather (significand : Nat) : List Char → Nat × List Char
  | [] => (significand, [])
  | d :: ds =>
    let next := significand * 10 + digitValue d
    if next < Nat.pow 2 64 then gather next ds else (significand, d :: ds)

/-- `± significand · 10 ^ scale`: one rounding for the significand, one for the power of ten, one
for their product or quotient.  `none` if that is infinite. -/
def toFloat? (negative : Bool) (significand : Nat) (scale : Int) : Option Binary64 :=
  let f := Binary64.ofRatio false significand 1
  let signed (x : Binary64) : Binary64 := if negative then x.neg else x
  if significand = 0 then some (signed f)
  else if 0 ≤ scale then
    if 308 < scale then none
    else
      let x := f.mul (.powerOfTen scale.toNat)
      if x.isFinite then some (signed x) else none
  else if -308 ≤ scale then some (signed (f.div (.powerOfTen (-scale).toNat)))
  else if -616 ≤ scale then
    some (signed ((f.div (.powerOfTen 308)).div (.powerOfTen (-scale - 308).toNat)))
  else some (signed (.ofMagnitude false 0))

/-- A number's exponent part, from behind its mark to the end of the text. -/
def exponent? (cs : List Char) : Option Int :=
  let (negative, ds) :=
    match cs with
    | '+' :: rest => (false, rest)
    | '-' :: rest => (true, rest)
    | _ => (false, cs)
  if ds.isEmpty || !ds.all Char.isDigit then none
  else
    let n : Int := ds.foldl (fun n d => n * 10 + digitValue d) 0
    some (if negative then -n else n)

/-- The number from its sign, its whole digits, the digits behind the point and its exponent
part, if it has these.  Digits that no longer fit the significand count as places: those before
the point raise the scale, those behind it are dropped. -/
def number? (negative : Bool) (whole : List Char) (fraction exponent : Option (List Char)) :
    Option Number :=
  let (significand, restWhole) := gather 0 whole
  match fraction, exponent with
  | none, none =>
    if restWhole.isEmpty && !negative then some (.int significand)
    else if restWhole.isEmpty && significand != 0 && significand ≤ Nat.pow 2 63 then
      some (.int (-(significand : Int)))
    else (toFloat? negative significand restWhole.length).map .float
  | _, _ =>
    let behind := fraction.getD []
    if fraction.isSome && behind.isEmpty then none
    else
      let (significand, restFraction) := gather significand behind
      let scale : Int := restWhole.length - (behind.length - restFraction.length : Nat)
      match exponent with
      | none => (toFloat? negative significand scale).map .float
      | some part =>
        (exponent? part).bind fun e => (toFloat? negative significand (scale + e)).map .float

/-- A number's text: an optional minus, digits without a leading zero, an optional fraction and an
optional exponent part. -/
def numberOf? (cs : List Char) : Option Number :=
  let (negative, cs) :=
    match cs with
    | '-' :: rest => (true, rest)
    | _ => (false, cs)
  let whole := cs.takeWhile Char.isDigit
  let wellFormed :=
    match whole with
    | [] => false
    | '0' :: _ :: _ => false
    | _ => true
  if !wellFormed then none
  else
    match cs.dropWhile Char.isDigit with
    | [] => number? negative whole none none
    | '.' :: rest =>
      let fraction := rest.takeWhile Char.isDigit
      match rest.dropWhile Char.isDigit with
      | [] => number? negative whole (some fraction) none
      | 'e' :: part | 'E' :: part => number? negative whole (some fraction) (some part)
      | _ => none
    | 'e' :: part | 'E' :: part => number? negative whole none (some part)
    | _ => none

/-! ### The machine -/

/-- A value is complete: it goes into the innermost open array or object, which must not be waiting
for a text. -/
def finish (stack : List Frame) (v : Json) : Option State :=
  match stack with
  | [] => some ⟨[], .ended, some v⟩
  | .array items :: rest => some ⟨.array (v :: items) :: rest, .ended, none⟩
  | .member entries key :: rest => some ⟨.object (entries.insert key v) :: rest, .ended, none⟩
  | _ => none

/-- A word is complete: a number or one of the three literals. -/
def finishWord (stack : List Frame) (read : List Char) : Option State :=
  let word := read.reverse
  if word = ['n', 'u', 'l', 'l'] then finish stack .null
  else if word = ['t', 'r', 'u', 'e'] then finish stack (.bool true)
  else if word = ['f', 'a', 'l', 's', 'e'] then finish stack (.bool false)
  else (numberOf? word).bind fun n => finish stack (.num n)

/-- A key is complete.  Only as the first of an object is the reserved key one that embeds. -/
def finishKey (stack : List Frame) (key : String) : Option State :=
  match stack with
  | .object entries :: rest =>
    if entries.isEmpty && key == embeddedKey then some ⟨.embedding :: rest, .colon, none⟩
    else some ⟨.member entries key :: rest, .colon, none⟩
  | _ => none

/-- A string is complete: a key, an embedded text, which `inner` reads, or a value. -/
def finishString (inner : String → Option Json) (stack : List Frame) (asKey : Bool)
    (read : List Char) : Option State :=
  let s := String.ofList read.reverse
  if asKey then finishKey stack s
  else
    match stack with
    | .embedding :: rest => (inner s).map fun v => ⟨.embedded v :: rest, .ended, none⟩
    | _ => finish stack (.str s)

/-- A character that numbers and literals are made of. -/
def isWordChar (c : Char) : Bool := c.isAlphanum || c == '+' || c == '-' || c == '.'

/-- The first character of a value. -/
def beginValue (stack : List Frame) (c : Char) : Option State :=
  if c = '"' then some ⟨stack, .string false [] .plain, none⟩
  else if c = '[' then
    if stack.length < 127 then some ⟨.array [] :: stack, .firstItem, none⟩ else none
  else if c = '\x7b' then
    if stack.length < 127 then some ⟨.object [] :: stack, .firstKey, none⟩ else none
  else if isWordChar c then some ⟨stack, .word [c], none⟩
  else none

/-- A character behind a complete value. -/
def afterValue (state : State) (c : Char) : Option State :=
  if isSpace c then some state
  else
    match state.stack with
    | .array items :: rest =>
      if c = ',' then some ⟨state.stack, .value, none⟩
      else if c = ']' then finish rest (.arr items.reverse)
      else none
    | .object entries :: rest =>
      if c = ',' then some ⟨state.stack, .key, none⟩
      else if c = '\x7d' then finish rest (.obj entries)
      else none
    | .embedded v :: rest => if c = '\x7d' then finish rest v else none
    | _ => none

/-- The character of a code unit that needs no partner. -/
def unitChar? (n : Nat) : Option Char :=
  if n < 0xD800 || 0xDFFF < n then some (Char.ofNat n) else none

/-- What a complete escaped unit stands for: a character, or the first half of one. -/
def finishUnit (high : Option Nat) (n : Nat) : Option (Char ⊕ Nat) :=
  match high with
  | none =>
    if 0xD800 ≤ n ∧ n ≤ 0xDBFF then some (.inr n) else (unitChar? n).map .inl
  | some h =>
    if 0xDC00 ≤ n ∧ n ≤ 0xDFFF then
      some (.inl (Char.ofNat (0x10000 + (h - 0xD800) * 0x400 + (n - 0xDC00))))
    else none

/-- A character inside a string. -/
def stepString (inner : String → Option Json) (stack : List Frame) (asKey : Bool)
    (read : List Char) (escape : Escape) (c : Char) : Option State :=
  let go (read : List Char) (escape : Escape) : Option State :=
    some ⟨stack, .string asKey read escape, none⟩
  match escape with
  | .plain =>
    if c = '"' then finishString inner stack asKey read
    else if c = '\\' then go read .started
    else if c.toNat < 32 then none
    else go (c :: read) .plain
  | .started =>
    if c = '"' ∨ c = '\\' ∨ c = '/' then go (c :: read) .plain
    else if c = 'b' then go (Char.ofNat 8 :: read) .plain
    else if c = 'f' then go (Char.ofNat 12 :: read) .plain
    else if c = 'n' then go ('\n' :: read) .plain
    else if c = 'r' then go ('\r' :: read) .plain
    else if c = 't' then go ('\t' :: read) .plain
    else if c = 'u' then go read (.unit none 0 0)
    else none
  | .unit high count value =>
    (hexValue? c).bind fun d =>
      let value := value * 16 + d
      if count < 3 then go read (.unit high (count + 1) value)
      else
        (finishUnit high value).bind fun
          | .inl ch => go (ch :: read) .plain
          | .inr h => go read (.pair h)
  | .pair high => if c = '\\' then go read (.pairStarted high) else none
  | .pairStarted high => if c = 'u' then go read (.unit (some high) 0 0) else none

/-- One step of the machine; `inner` reads embedded texts. -/
def step (inner : String → Option Json) (state : State) (c : Char) : Option State :=
  match state.mode with
  | .value => if isSpace c then some state else beginValue state.stack c
  | .firstItem =>
    if isSpace c then some state
    else if c = ']' then finish state.stack.tail (.arr [])
    else beginValue state.stack c
  | .firstKey =>
    if isSpace c then some state
    else if c = '\x7d' then finish state.stack.tail (.obj [])
    else if c = '"' then some ⟨state.stack, .string true [] .plain, none⟩
    else none
  | .key =>
    if isSpace c then some state
    else if c = '"' then some ⟨state.stack, .string true [] .plain, none⟩
    else none
  | .colon =>
    if isSpace c then some state
    else if c = ':' then some ⟨state.stack, .value, none⟩
    else none
  | .ended => afterValue state c
  | .string asKey read escape => stepString inner state.stack asKey read escape c
  | .word read =>
    if isWordChar c then some ⟨state.stack, .word (c :: read), none⟩
    else (finishWord state.stack read).bind fun next => afterValue next c

/-- The value of a text that has ended. -/
def close (state : State) : Option Json :=
  match state.mode with
  | .word read => (finishWord state.stack read).bind State.root
  | _ => state.root

/-- Read a text in which fewer than `depth` texts lie inside each other. -/
def readWithin : Nat → String → Option Json
  | 0, _ => none
  | depth + 1, text => (text.toList.foldlM (step (readWithin depth)) start).bind close

end Reader

/-- Read a text that holds one JSON value.  An embedded text is shorter than the text around it, so
the length bounds the depth. -/
def Json.read? (text : String) : Option Json := Reader.readWithin (text.length + 1) text

end DocStore
