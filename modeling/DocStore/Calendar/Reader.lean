import DocStore.Calendar.Timestamp
import DocStore.Text.Blank

/-!
# Reading points in time

`Timestamp.read?` tries four forms in turn and takes the first that fits the whole text:

1. the strict internet form `YYYY-MM-DDTHH:MM:SS[.fraction]` with a time zone, whose date and
   time may also be separated by `t` or a space;
2. the same with a capital `T` and no time zone;
3. the same with any number of blanks in place of the `T`;
4. a date alone, which stands for its midnight.

In the last three forms blanks may precede every number, numbers may be shorter than their
width, and the year may have a sign and any number of digits.
-/

namespace DocStore

namespace Timestamp

/-- The number that a run of digits stands for. -/
def number (ds : List Char) : Nat := ds.foldl (fun n d => n * 10 + (d.toNat - 48)) 0

/-- The digits at the start of a text, at most `most` of them. -/
def leadingDigits (most : Nat) (cs : List Char) : List Char := (cs.take most).takeWhile Char.isDigit

/-- A number of at least `least` and at most `most` digits. -/
def digits (least most : Nat) (cs : List Char) : Option (Nat × List Char) :=
  let ds := leadingDigits most cs
  if ds.length < least then none else some (number ds, cs.drop ds.length)

/-- A given character. -/
def mark (c : Char) : List Char → Option (List Char)
  | d :: rest => if d = c then some rest else none
  | [] => none

/-- An optional fraction of a second in nanoseconds; digits after the ninth are skipped. -/
def fraction : List Char → Option (Nat × List Char)
  | '.' :: rest =>
    let ds := leadingDigits 9 rest
    if ds.isEmpty then none
    else
      some (number ds * Nat.pow 10 (9 - ds.length), (rest.drop ds.length).dropWhile Char.isDigit)
  | cs => some (0, cs)

/-! ### The strict form -/

/-- A time zone in minutes east: `Z`, or a sign, hours and minutes.  U+2212 is a minus as well. -/
def zone : List Char → Option (Int × List Char)
  | [] => none
  | c :: rest =>
    if c = 'Z' ∨ c = 'z' then some (0, rest)
    else if c = '+' ∨ c = '-' ∨ c.toNat = 0x2212 then do
      let (hours, rest) ← digits 2 2 rest
      let rest ← mark ':' rest
      let (minutes, rest) ← digits 2 2 rest
      if 24 ≤ hours ∨ 60 ≤ minutes then none
      else
        let offset : Int := hours * 60 + minutes
        some (if c = '+' then offset else -offset, rest)
    else none

/-- The mark between date and time in the strict form. -/
def separator : List Char → Option (List Char)
  | c :: rest => if c = 'T' ∨ c = 't' ∨ c = ' ' then some rest else none
  | [] => none

/-- The strict form with its time zone. -/
def readZoned? (cs : List Char) : Option Timestamp := do
  let (year, cs) ← digits 4 4 cs
  let cs ← mark '-' cs
  let (month, cs) ← digits 2 2 cs
  let cs ← mark '-' cs
  let (day, cs) ← digits 2 2 cs
  let cs ← separator cs
  let (hour, cs) ← digits 2 2 cs
  let cs ← mark ':' cs
  let (minute, cs) ← digits 2 2 cs
  let cs ← mark ':' cs
  let (second, cs) ← digits 2 2 cs
  let (nano, cs) ← fraction cs
  let (offset, cs) ← zone cs
  if !cs.isEmpty then none
  else
    let date ← CivilDate.ofParts? year month day
    let reading ← ofParts? date hour minute second nano
    some (reading.atOffset offset)

/-! ### The loose forms -/

/-- A number of at most two digits behind any blanks. -/
def short (cs : List Char) : Option (Nat × List Char) := digits 1 2 (Text.dropBlanks cs)

/-- A year behind any blanks: four digits at most, or a sign and any number of digits. -/
def looseYear (cs : List Char) : Option (Int × List Char) :=
  match Text.dropBlanks cs with
  | '-' :: rest => (digits 1 rest.length rest).map fun (n, rest) => (-(n : Int), rest)
  | '+' :: rest => (digits 1 rest.length rest).map fun (n, rest) => ((n : Int), rest)
  | rest => (digits 1 4 rest).map fun (n, rest) => ((n : Int), rest)

/-- A date at the start of a text. -/
def looseDate (cs : List Char) : Option (CivilDate × List Char) := do
  let (year, cs) ← looseYear cs
  let cs ← mark '-' cs
  let (month, cs) ← short cs
  let cs ← mark '-' cs
  let (day, cs) ← short cs
  let date ← CivilDate.ofParts? year month day
  some (date, cs)

/-- A time of day that ends the text. -/
def looseTime (date : CivilDate) (cs : List Char) : Option Timestamp := do
  let (hour, cs) ← short cs
  let cs ← mark ':' cs
  let (minute, cs) ← short cs
  let cs ← mark ':' cs
  let (second, cs) ← short cs
  let (nano, cs) ← fraction cs
  if cs.isEmpty then ofParts? date hour minute second nano else none

/-- A date, a capital `T` and a time. -/
def readMarked? (cs : List Char) : Option Timestamp := do
  let (date, cs) ← looseDate cs
  let cs ← mark 'T' cs
  looseTime date cs

/-- A date, blanks and a time. -/
def readSpaced? (cs : List Char) : Option Timestamp := do
  let (date, cs) ← looseDate cs
  looseTime date (Text.dropBlanks cs)

/-- A date alone. -/
def readDate? (cs : List Char) : Option Timestamp := do
  let (date, cs) ← looseDate cs
  if cs.isEmpty then some (midnight date) else none

/-- Read a point in time; a text without a time zone is taken as universal time. -/
def read? (text : String) : Option Timestamp :=
  let cs := text.toList
  readZoned? cs <|> readMarked? cs <|> readSpaced? cs <|> readDate? cs

end Timestamp

end DocStore
