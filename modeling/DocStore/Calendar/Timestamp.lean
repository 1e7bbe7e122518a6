import DocStore.Calendar.Date

/-!
# Points in time and their texts

A `Timestamp` is a date and a time of day in universal time with nanoseconds.  Its second may be
60: a leap second is kept, not folded into the next minute.

`engineText` is the form in which timestamp columns take and give a value, `isoText` the form
inside documents; both cut the fraction off, the first after six digits and the second after
three.  Years outside 0 to 9999 are written with a sign.
-/

namespace DocStore

/-- A point in universal time. -/
structure Timestamp where
  date : CivilDate
  hour : Nat
  minute : Nat
  second : Nat
  nano : Nat
  deriving DecidableEq, Repr

namespace Timestamp

/-- The timestamp with these parts, if there is one. -/
def ofParts? (date : CivilDate) (hour minute second nano : Nat) : Option Timestamp :=
  if hour < 24 ∧ minute < 60 ∧ second ≤ 60 ∧ nano < 1000000000 then
    some ⟨date, hour, minute, second, nano⟩
  else none

/-- The first instant of a day. -/
def midnight (date : CivilDate) : Timestamp := ⟨date, 0, 0, 0, 0⟩

/-- The same local reading, taken `offset` minutes east, in universal time; `offset` is shorter
than a day. -/
def atOffset (local_ : Timestamp) (offset : Int) : Timestamp :=
  let minutes := (local_.hour * 60 + local_.minute : Nat) - offset
  let date :=
    if minutes < 0 then local_.date.previous
    else if 1440 ≤ minutes then local_.date.next
    else local_.date
  let inDay := (minutes % 1440).toNat
  { local_ with date, hour := inDay / 60, minute := inDay % 60 }

/-- The digits of a number, filled up with zeros on the left. -/
def padded (width n : Nat) : List Char :=
  let ds := Nat.toDigits 10 n
  List.replicate (width - ds.length) '0' ++ ds

/-- A year: four digits, with a sign outside 0 to 9999. -/
def yearText (year : Int) : List Char :=
  if 0 ≤ year ∧ year ≤ 9999 then padded 4 year.toNat
  else (if year < 0 then '-' else '+') :: padded 4 year.natAbs

/-- Year, month and day. -/
def dateText (d : CivilDate) : List Char :=
  yearText d.year ++ '-' :: padded 2 d.month ++ '-' :: padded 2 d.day

/-- Hour, minute and second. -/
def timeText (t : Timestamp) : List Char :=
  padded 2 t.hour ++ ':' :: padded 2 t.minute ++ ':' :: padded 2 t.second

/-- The text of a timestamp column, to the microsecond. -/
def engineText (t : Timestamp) : String :=
  String.ofList (dateText t.date ++ ' ' :: t.timeText ++ '.' :: padded 6 (t.nano / 1000))

/-- The text inside documents, to the millisecond. -/
def isoText (t : Timestamp) : String :=
  String.ofList
    (dateText t.date ++ 'T' :: t.timeText ++ '.' :: padded 3 (t.nano / 1000000) ++ ['Z'])

end Timestamp

end DocStore
