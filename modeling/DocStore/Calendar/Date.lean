/-!
# Days of the proleptic Gregorian calendar

A `CivilDate` is a year, a month and a day of the month; years run from -262143 to 262142.
`next` and `previous` give the neighbouring days, which is all that a shift by a time zone
offset needs.
-/

namespace DocStore

/-- A day of the calendar. -/
structure CivilDate where
  year : Int
  month : Nat
  day : Nat
  deriving DecidableEq, Repr

namespace CivilDate

/-- A year divisible by four, of the centuries only those divisible by 400. -/
def isLeap (year : Int) : Bool := (year % 4 == 0 && year % 100 != 0) || year % 400 == 0

/-- The number of days of a month. -/
def monthLength (year : Int) (month : Nat) : Nat :=
  if month = 2 then if isLeap year then 29 else 28
  else if month = 4 ∨ month = 6 ∨ month = 9 ∨ month = 11 then 30
  else 31

/-- The first and the last year of the calendar. -/
def inRange (year : Int) : Bool := decide (-262143 ≤ year ∧ year ≤ 262142)

/-- A date of the calendar. -/
def isValid (d : CivilDate) : Bool :=
  inRange d.year && decide (1 ≤ d.month ∧ d.month ≤ 12 ∧ 1 ≤ d.day) &&
    decide (d.day ≤ monthLength d.year d.month)

/-- The date with these parts, if there is one. -/
def ofParts? (year : Int) (month day : Nat) : Option CivilDate :=
  let d : CivilDate := ⟨year, month, day⟩
  if d.isValid then some d else none

/-- The day after. -/
def next (d : CivilDate) : CivilDate :=
  if d.day < monthLength d.year d.month then { d with day := d.day + 1 }
  else if d.month < 12 then ⟨d.year, d.month + 1, 1⟩
  else ⟨d.year + 1, 1, 1⟩

/-- The day before. -/
def previous (d : CivilDate) : CivilDate :=
  if 1 < d.day then { d with day := d.day - 1 }
  else if 1 < d.month then ⟨d.year, d.month - 1, monthLength d.year (d.month - 1)⟩
  else ⟨d.year - 1, 12, 31⟩

end CivilDate

end DocStore
