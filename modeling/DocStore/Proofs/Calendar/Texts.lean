import DocStore.Calendar.Reader
import DocStore.Proofs.Calendar.Days
import Mathlib.Algebra.Group.Nat.Defs
import Mathlib.Data.List.TakeWhile

/-!
# Points in time are read back from their texts

Both texts of a point in time hold its parts as numbers of fixed width with marks between them.  A
number that is filled up to its width is read back whatever follows it (`digits_padded`), so the
text inside documents is read back by the strict form, to the millisecond (`read?_isoText`), and the
text of a timestamp column, which has no time zone, by the loose form with a blank, to the
microsecond (`read?_engineText`).  A year with a sign has no strict form, but in the loose forms it
is read back with any number of digits (`looseYear_text`).
-/

namespace DocStore

namespace Timestamp

/-! ### Numbers of fixed width -/

variable {width n least : Nat} {rest : List Char}

theorem number_eq_ofDigitChars (ds : List Char) : number ds = Nat.ofDigitChars 10 ds 0 := by
  have hstep : (fun n (d : Char) => n * 10 + (d.toNat - 48)) =
      fun n d => 10 * n + (d.toNat - '0'.toNat) := by
    funext n d
    rw [Nat.mul_comm]
    rfl
  rw [number, Nat.ofDigitChars_eq_foldl, hstep]

theorem number_padded (width n : Nat) : number (padded width n) = n := by
  rw [number_eq_ofDigitChars, padded, Nat.ofDigitChars_append, Nat.ofDigitChars_replicate_zero,
    Nat.mul_zero, Nat.ofDigitChars_ten_toDigits]

theorem isDigit_of_mem_padded {c : Char} (h : c ∈ padded width n) : c.isDigit = true := by
  rcases List.mem_append.1 h with h | h
  · rw [List.eq_of_mem_replicate h]
    rfl
  · exact Nat.isDigit_of_mem_toDigits (by omega) (by omega) h

theorem length_padded (hwidth : 0 < width) (hn : n < 10 ^ width) :
    (padded width n).length = width := by
  have hlength : (Nat.toDigits 10 n).length ≤ width :=
    (Nat.length_toDigits_le_iff (by omega) hwidth).2 hn
  simp only [padded, List.length_append, List.length_replicate]
  omega

theorem padded_eq_cons (hwidth : 0 < width) (hn : n < 10 ^ width) :
    ∃ c cs, padded width n = c :: cs ∧ c.isDigit = true := by
  have hlength := length_padded hwidth hn
  obtain ⟨c, cs, hcs⟩ := List.exists_cons_of_length_pos (show 0 < (padded width n).length by omega)
  exact ⟨c, cs, hcs, isDigit_of_mem_padded (hcs ▸ List.mem_cons_self)⟩

theorem takeWhile_padded : (padded width n).takeWhile Char.isDigit = padded width n :=
  List.takeWhile_eq_self_iff.2 fun _ hc => isDigit_of_mem_padded hc

/-- A filled-up number is read back, whatever follows it. -/
theorem digits_padded (hwidth : 0 < width) (hn : n < 10 ^ width) (hleast : least ≤ width) :
    digits least width (padded width n ++ rest) = some (n, rest) := by
  have hlength := length_padded hwidth hn
  have hleading : leadingDigits width (padded width n ++ rest) = padded width n := by
    rw [leadingDigits, List.take_left' hlength, takeWhile_padded]
  simp only [digits, hleading, hlength, number_padded, List.drop_left' hlength]
  rw [if_neg (by omega)]

theorem not_isDigit_nil : ∀ c ∈ ([] : List Char).head?, c.isDigit = false := by simp

/-- The digits end with the number, even if more could be taken. -/
theorem leadingDigits_padded {most : Nat} (hmost : (padded width n).length ≤ most)
    (hrest : ∀ c ∈ rest.head?, c.isDigit = false) :
    leadingDigits most (padded width n ++ rest) = padded width n := by
  have hstop : ∀ k, (rest.take k).takeWhile Char.isDigit = [] := by
    intro k
    cases rest with
    | nil => simp
    | cons c rest =>
      have hc : c.isDigit = false := hrest c rfl
      cases k <;> simp [hc]
  rw [leadingDigits, List.take_append, List.take_of_length_le hmost,
    List.takeWhile_append_of_pos fun c hc => isDigit_of_mem_padded hc, hstop, List.append_nil]

/-- A filled-up number with a point in front of it is a fraction of a second. -/
theorem fraction_padded (hwidth : 0 < width) (hmost : width ≤ 9) (hn : n < 10 ^ width)
    (hrest : ∀ c ∈ rest.head?, c.isDigit = false) :
    fraction ('.' :: (padded width n ++ rest)) = some (n * 10 ^ (9 - width), rest) := by
  have hlength := length_padded hwidth hn
  have hleading : leadingDigits 9 (padded width n ++ rest) = padded width n :=
    leadingDigits_padded (by omega) hrest
  have hne : (padded width n).isEmpty = false := by
    obtain ⟨c, cs, hcs, -⟩ := padded_eq_cons hwidth hn
    rw [hcs]
    rfl
  have hdrop : rest.dropWhile Char.isDigit = rest := by
    cases rest with
    | nil => rfl
    | cons c rest => simp [hrest c rfl]
  simp only [fraction, hleading, hne, hlength, number_padded, List.drop_left' hlength, hdrop]
  rfl

theorem not_isBlank_of_isDigit {c : Char} (h : c.isDigit = true) : Text.isBlank c = false := by
  simp only [Char.isDigit, Bool.and_eq_true, decide_eq_true_eq] at h
  have hlow : 48 ≤ c.toNat := h.1
  have hhigh : c.toNat ≤ 57 := h.2
  simp [Text.isBlank]
  omega

theorem dropBlanks_padded (hwidth : 0 < width) (hn : n < 10 ^ width) :
    Text.dropBlanks (padded width n ++ rest) = padded width n ++ rest := by
  obtain ⟨c, cs, hcs, hc⟩ := padded_eq_cons hwidth hn
  simp [hcs, Text.dropBlanks, not_isBlank_of_isDigit hc]

theorem short_padded (hn : n < 100) : short (padded 2 n ++ rest) = some (n, rest) := by
  rw [short, dropBlanks_padded (by omega) hn, digits_padded (by omega) hn (by omega)]

/-- A number behind a sign is read to its last digit. -/
theorem digits_padded_all (hwidth : 0 < width) (hrest : ∀ c ∈ rest.head?, c.isDigit = false) :
    digits 1 (padded width n ++ rest).length (padded width n ++ rest) = some (n, rest) := by
  have hleading : leadingDigits (padded width n ++ rest).length (padded width n ++ rest) =
      padded width n :=
    leadingDigits_padded (by simp) hrest
  have hlength : 0 < (padded width n).length := by
    simp only [padded, List.length_append, List.length_replicate]
    omega
  simp only [digits, hleading, number_padded, List.drop_left]
  rw [if_neg (by omega)]

/-! ### Dates and times -/

/-- A point in time that a reader can give. -/
structure IsRegular (t : Timestamp) : Prop where
  date : t.date.isValid = true
  hour : t.hour < 24
  minute : t.minute < 60
  second : t.second ≤ 60
  nano : t.nano < 1000000000

/-- A point in time that a reader can give, in a year that is written without a sign. -/
structure IsCommon (t : Timestamp) : Prop where
  date : t.date.isValid = true
  year : 0 ≤ t.date.year ∧ t.date.year ≤ 9999
  hour : t.hour < 24
  minute : t.minute < 60
  second : t.second ≤ 60
  nano : t.nano < 1000000000

/-- The point in time with its fraction cut off behind so many digits. -/
def cut (t : Timestamp) (places : Nat) : Timestamp :=
  { t with nano := t.nano / 10 ^ (9 - places) * 10 ^ (9 - places) }

variable {t : Timestamp}

theorem cut_eq_self {places : Nat} (h : t.nano % 10 ^ (9 - places) = 0) : t.cut places = t := by
  rw [cut, Nat.div_mul_cancel (Nat.dvd_of_mod_eq_zero h)]

theorem IsCommon.isRegular (h : t.IsCommon) : t.IsRegular :=
  ⟨h.date, h.hour, h.minute, h.second, h.nano⟩

variable {d : CivilDate}

theorem IsCommon.year_lt (h : t.IsCommon) : t.date.year.toNat < 10 ^ 4 := by
  have := h.year
  omega

theorem IsCommon.year_eq (h : t.IsCommon) : (t.date.year.toNat : Int) = t.date.year :=
  Int.toNat_of_nonneg h.year.1

theorem IsRegular.ofParts? (h : t.IsRegular) (hnano : n < 1000000000) :
    ofParts? t.date t.hour t.minute t.second n = some { t with nano := n } :=
  if_pos ⟨h.hour, h.minute, h.second, hnano⟩

theorem dateText_append (d : CivilDate) : dateText d ++ rest = yearText d.year ++
      '-' :: (padded 2 d.month ++ '-' :: (padded 2 d.day ++ rest)) := by
  simp [dateText]

theorem IsCommon.yearText_eq (h : t.IsCommon) :
    yearText t.date.year = padded 4 t.date.year.toNat := if_pos h.year

theorem timeText_append : t.timeText ++ rest = padded 2 t.hour ++
    ':' :: (padded 2 t.minute ++ ':' :: (padded 2 t.second ++ rest)) := by
  simp [timeText]

theorem mark_self (c : Char) (cs : List Char) : mark c (c :: cs) = some cs := if_pos rfl

/-- A reader goes on behind a part that it has read. -/
theorem bind_of_eq_some {α β : Type} {o : Option α} {a : α} {f : α → Option β} (h : o = some a) :
    (o >>= f) = f a := by
  rw [h, Option.bind_eq_bind, Option.bind_some]

theorem atOffset_zero (h : t.IsRegular) : t.atOffset 0 = t := by
  have hhour := h.hour
  have hminute := h.minute
  have hday : ¬ 1440 ≤ (t.hour * 60 + t.minute : Nat) := by omega
  have hinDay : (((t.hour * 60 + t.minute : Nat) : Int) % 1440).toNat = t.hour * 60 + t.minute := by
    omega
  have hhours : (t.hour * 60 + t.minute) / 60 = t.hour := by omega
  have hminutes : (t.hour * 60 + t.minute) % 60 = t.minute := by omega
  simp only [atOffset, Int.sub_zero, hinDay, hhours, hminutes]
  rw [if_neg (by omega), if_neg (by omega)]

/-- The strict form of a date and a time comes down to the time zone behind them. -/
theorem readZoned?_text (h : t.IsCommon) (hwidth : 0 < width) (hmost : width ≤ 9)
    (hn : n < 10 ^ width) {separator : Char} (hseparator : separator = 'T' ∨ separator = ' ')
    (hrest : ∀ c ∈ rest.head?, c.isDigit = false) :
    readZoned? (dateText t.date ++ separator ::
        (t.timeText ++ '.' :: (padded width n ++ rest))) =
      (zone rest).bind fun (offset, cs) =>
        if !cs.isEmpty then none
        else (ofParts? t.date t.hour t.minute t.second (n * 10 ^ (9 - width))).map
          (·.atOffset offset) := by
  have hhour := h.hour
  have hminute := h.minute
  have hsecond := h.second
  have hmark : ∀ cs, Timestamp.separator (separator :: cs) = some cs := by
    rcases hseparator with rfl | rfl <;> exact fun _ => rfl
  have hdigits : ∀ {m : Nat} {cs : List Char}, m < 10 ^ 2 →
      digits 2 2 (padded 2 m ++ cs) = some (m, cs) :=
    fun hm => digits_padded (by omega) hm (Nat.le_refl 2)
  rw [dateText_append, h.yearText_eq, readZoned?, timeText_append]
  -- the parts are read one by one, each behind the one before it
  refine (bind_of_eq_some (digits_padded (by omega) h.year_lt (Nat.le_refl 4))).trans ?_
  refine (bind_of_eq_some (mark_self _ _)).trans ?_
  refine (bind_of_eq_some (hdigits (CivilDate.month_lt h.date))).trans ?_
  refine (bind_of_eq_some (mark_self _ _)).trans ?_
  refine (bind_of_eq_some (hdigits (CivilDate.day_lt h.date))).trans ?_
  refine (bind_of_eq_some (hmark _)).trans ?_
  refine (bind_of_eq_some (hdigits (by omega))).trans ?_
  refine (bind_of_eq_some (mark_self _ _)).trans ?_
  refine (bind_of_eq_some (hdigits (by omega))).trans ?_
  refine (bind_of_eq_some (mark_self _ _)).trans ?_
  refine (bind_of_eq_some (hdigits (by omega))).trans ?_
  refine (bind_of_eq_some (fraction_padded hwidth hmost hn hrest)).trans ?_
  dsimp only
  cases zone rest with
  | none => rfl
  | some result =>
    obtain ⟨offset, cs⟩ := result
    simp only [Option.bind_eq_bind, Option.bind_some, h.year_eq, CivilDate.ofParts?_self h.date]
    split
    · rfl
    · cases Timestamp.ofParts? t.date t.hour t.minute t.second (n * 10 ^ (9 - width)) <;> rfl

theorem looseYear_padded (hn : n < 10 ^ 4) :
    looseYear (padded 4 n ++ rest) = some ((n : Int), rest) := by
  have hread : digits 1 4 (padded 4 n ++ rest) = some (n, rest) :=
    digits_padded (by omega) hn (by omega)
  obtain ⟨c, cs, hcs, hc⟩ := padded_eq_cons (by omega) hn
  rw [looseYear, dropBlanks_padded (by omega) hn]
  rw [hcs, List.cons_append] at hread ⊢
  split
  · next heq =>
    obtain ⟨rfl, -⟩ := List.cons.inj heq
    cases hc
  · next heq =>
    obtain ⟨rfl, -⟩ := List.cons.inj heq
    cases hc
  · rw [hread]
    rfl

theorem looseYear_minus (cs : List Char) :
    looseYear ('-' :: cs) = (digits 1 cs.length cs).map fun (n, rest) => (-(n : Int), rest) := rfl

theorem looseYear_plus (cs : List Char) :
    looseYear ('+' :: cs) = (digits 1 cs.length cs).map fun (n, rest) => ((n : Int), rest) := rfl

/-- A year is read back, with a sign or without. -/
theorem looseYear_text (year : Int) (cs : List Char) :
    looseYear (yearText year ++ '-' :: cs) = some (year, '-' :: cs) := by
  unfold yearText
  split
  · next hyear => rw [looseYear_padded (by omega), Int.toNat_of_nonneg hyear.1]
  · have hread : digits 1 (padded 4 year.natAbs ++ '-' :: cs).length
        (padded 4 year.natAbs ++ '-' :: cs) = some (year.natAbs, '-' :: cs) :=
      digits_padded_all (by omega) (by simp)
    split
    · next hnegative =>
      rw [List.cons_append, looseYear_minus, hread]
      exact congrArg (fun y => some (y, '-' :: cs)) (show -(year.natAbs : Int) = year by omega)
    · next hpositive =>
      rw [List.cons_append, looseYear_plus, hread]
      exact congrArg (fun y => some (y, '-' :: cs)) (show (year.natAbs : Int) = year by omega)

theorem looseDate_text (h : d.isValid = true) :
    looseDate (dateText d ++ rest) = some (d, rest) := by
  rw [dateText_append, looseDate]
  refine (bind_of_eq_some (looseYear_text d.year _)).trans ?_
  refine (bind_of_eq_some (mark_self _ _)).trans ?_
  refine (bind_of_eq_some (short_padded (CivilDate.month_lt h))).trans ?_
  refine (bind_of_eq_some (mark_self _ _)).trans ?_
  refine (bind_of_eq_some (short_padded (CivilDate.day_lt h))).trans ?_
  exact bind_of_eq_some (CivilDate.ofParts?_self h)

theorem looseTime_text (h : t.IsRegular) (hwidth : 0 < width) (hmost : width ≤ 9)
    (hn : n < 10 ^ width) :
    looseTime t.date (t.timeText ++ '.' :: padded width n) =
      ofParts? t.date t.hour t.minute t.second (n * 10 ^ (9 - width)) := by
  have hhour := h.hour
  have hminute := h.minute
  have hsecond := h.second
  have hfraction : fraction ('.' :: padded width n) = some (n * 10 ^ (9 - width), []) := by
    have hread := fraction_padded hwidth hmost hn not_isDigit_nil
    rwa [List.append_nil] at hread
  rw [timeText_append, looseTime]
  refine (bind_of_eq_some (short_padded (by omega))).trans ?_
  refine (bind_of_eq_some (mark_self _ _)).trans ?_
  refine (bind_of_eq_some (short_padded (by omega))).trans ?_
  refine (bind_of_eq_some (mark_self _ _)).trans ?_
  refine (bind_of_eq_some (short_padded (by omega))).trans ?_
  exact bind_of_eq_some hfraction

/-! ### The two texts -/

/-- **The text inside documents is read back to the millisecond.** -/
theorem read?_isoText (h : t.IsCommon) : read? t.isoText = some (t.cut 3) := by
  have hnano := h.nano
  have htext : t.isoText.toList = dateText t.date ++ 'T' ::
      (t.timeText ++ '.' :: (padded 3 (t.nano / 1000000) ++ ['Z'])) := by
    simp [isoText]
  have hzone : zone ['Z'] = some (0, []) := rfl
  have hcut : IsRegular { t with nano := t.nano / 1000000 * 1000000 } :=
    ⟨h.date, h.hour, h.minute, h.second, show t.nano / 1000000 * 1000000 < _ by omega⟩
  have hzoned : readZoned? t.isoText.toList = some (t.cut 3) := by
    rw [htext, readZoned?_text h (by omega) (by omega) (by omega) (.inl rfl) (by simp), hzone,
      Option.bind_some]
    show (ofParts? t.date t.hour t.minute t.second (t.nano / 1000000 * 1000000)).map
      (·.atOffset 0) = _
    rw [h.isRegular.ofParts? hcut.nano, Option.map_some, atOffset_zero hcut]
    rfl
  simp only [read?, hzoned]
  rfl

/-- The text of a timestamp column has no strict form: it has no time zone, and a year with a sign
does not begin with a digit. -/
theorem readZoned?_engineText (h : t.IsRegular) : readZoned? t.engineText.toList = none := by
  have hnano := h.nano
  have htext : t.engineText.toList = dateText t.date ++ ' ' ::
      (t.timeText ++ '.' :: padded 6 (t.nano / 1000)) := by
    simp [engineText]
  rw [htext]
  by_cases hyear : 0 ≤ t.date.year ∧ t.date.year ≤ 9999
  · have hcommon : t.IsCommon := ⟨h.date, hyear, h.hour, h.minute, h.second, h.nano⟩
    have hread := readZoned?_text hcommon (show 0 < 6 by omega) (by omega)
      (show t.nano / 1000 < 10 ^ 6 by omega) (.inr rfl) not_isDigit_nil
    rw [List.append_nil] at hread
    rw [hread]
    rfl
  · rw [dateText_append, yearText, if_neg hyear]
    split <;> rfl

/-- **The text of a timestamp column is read back to the microsecond.** -/
theorem read?_engineText (h : t.IsRegular) : read? t.engineText = some (t.cut 6) := by
  have hnano := h.nano
  have htext : t.engineText.toList = dateText t.date ++ ' ' ::
      (t.timeText ++ '.' :: padded 6 (t.nano / 1000)) := by
    simp [engineText]
  have hmarked : readMarked? t.engineText.toList = none := by
    rw [htext, readMarked?, looseDate_text h.date]
    rfl
  have hspaced : readSpaced? t.engineText.toList = some (t.cut 6) := by
    have hblank : Text.dropBlanks (' ' :: (t.timeText ++ '.' :: padded 6 (t.nano / 1000))) =
        t.timeText ++ '.' :: padded 6 (t.nano / 1000) := by
      have hhour : t.hour < 10 ^ 2 := by have := h.hour; omega
      have hspace : Text.isBlank ' ' = true := rfl
      rw [Text.dropBlanks, List.dropWhile_cons_of_pos hspace, timeText_append]
      exact dropBlanks_padded (by omega) hhour
    rw [htext, readSpaced?]
    refine (bind_of_eq_some (looseDate_text h.date)).trans ?_
    dsimp only
    rw [hblank, looseTime_text h (by omega) (by omega) (by omega), h.ofParts? (by omega)]
    rfl
  simp only [read?, readZoned?_engineText h, hmarked, hspaced]
  rfl

end Timestamp

end DocStore
