import DocStore.Calendar.Date
import Mathlib.Algebra.Group.Nat.Defs

/-!
# Neighbouring days

The calendar has every day of the years from -262143 to 262142 (`CivilDate.isValid_iff`).  The days
next to one of its days belong to it too, but for the two ends (`CivilDate.isValid_next`,
`CivilDate.isValid_previous`).
-/

namespace DocStore

namespace CivilDate

variable {d : CivilDate}

theorem isValid_iff : d.isValid = true ↔ (-262143 ≤ d.year ∧ d.year ≤ 262142) ∧
    (1 ≤ d.month ∧ d.month ≤ 12) ∧ 1 ≤ d.day ∧ d.day ≤ monthLength d.year d.month := by
  simp only [isValid, inRange, Bool.and_eq_true, decide_eq_true_eq, and_assoc]

/-- A month has at least one day and at most 31. -/
theorem monthLength_bounds (year : Int) (month : Nat) :
    1 ≤ monthLength year month ∧ monthLength year month ≤ 31 := by
  unfold monthLength
  split
  · split <;> omega
  · split <;> omega

theorem month_lt (h : d.isValid = true) : d.month < 10 ^ 2 := by
  have hmonth := (isValid_iff.1 h).2.1.2
  omega

theorem day_lt (h : d.isValid = true) : d.day < 10 ^ 2 := by
  have hday := (isValid_iff.1 h).2.2.2
  have hlength := (monthLength_bounds d.year d.month).2
  omega

/-- The day after a day of the calendar is one too, unless it is the last. -/
theorem isValid_next (h : d.isValid = true) (hyear : d.year < 262142) : d.next.isValid = true := by
  obtain ⟨hrange, hmonth, hday⟩ := isValid_iff.1 h
  unfold next
  split
  · next hlast => exact isValid_iff.2 ⟨hrange, hmonth, Nat.le_add_left _ _, hlast⟩
  · split
    · next hlast =>
      exact isValid_iff.2 ⟨hrange, ⟨Nat.le_add_left _ _, hlast⟩, Nat.le_refl 1,
        (monthLength_bounds _ _).1⟩
    · have hlater : -262143 ≤ d.year + 1 ∧ d.year + 1 ≤ 262142 := by omega
      exact isValid_iff.2 ⟨hlater, ⟨Nat.le_refl 1, Nat.le_add_left 1 11⟩, Nat.le_refl 1,
        (monthLength_bounds _ _).1⟩

/-- The day before a day of the calendar is one too, unless it is the first. -/
theorem isValid_previous (h : d.isValid = true) (hyear : -262143 < d.year) :
    d.previous.isValid = true := by
  obtain ⟨hrange, hmonth, hday⟩ := isValid_iff.1 h
  unfold previous
  split
  · next hfirst =>
    exact isValid_iff.2 ⟨hrange, hmonth, Nat.le_sub_one_of_lt hfirst,
      Nat.le_trans (Nat.sub_le _ _) hday.2⟩
  · split
    · next hfirst =>
      exact isValid_iff.2 ⟨hrange,
        ⟨Nat.le_sub_one_of_lt hfirst, Nat.le_trans (Nat.sub_le _ _) hmonth.2⟩,
        (monthLength_bounds _ _).1, Nat.le_refl _⟩
    · have hearlier : -262143 ≤ d.year - 1 ∧ d.year - 1 ≤ 262142 := by omega
      exact isValid_iff.2 ⟨hearlier, ⟨Nat.le_add_left 1 11, Nat.le_refl 12⟩, Nat.le_add_left 1 30,
        Nat.le_refl 31⟩

theorem ofParts?_self (h : d.isValid = true) : ofParts? d.year d.month d.day = some d := if_pos h

theorem isValid_of_ofParts? {year : Int} {month day : Nat} (h : ofParts? year month day = some d) :
    d.isValid = true ∧ d.year = year := by
  unfold ofParts? at h
  dsimp only at h
  split at h
  · next hvalid =>
    cases h
    exact ⟨hvalid, rfl⟩
  · cases h

end CivilDate

end DocStore
