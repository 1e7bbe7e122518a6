import DocStore.Proofs.Calendar.Texts
import Mathlib.Data.List.Induction
import Mathlib.Data.Option.Basic

/-!
# Whatever is read is kept

What a reader gives is a day of the calendar and a time of that day, whose second may be 60
(`Timestamp.isRegular_of_read?`).  A shift by a time zone leads to a neighbouring day of the
calendar, because the strict form knows four-digit years only
(`Timestamp.IsRegular.atOffset`).

So both texts of what has been read are read back, cut to whole microseconds and to whole
milliseconds, and a second round changes nothing (`Timestamp.texts_of_read?`).
-/

namespace DocStore

namespace Timestamp

variable {cs rest : List Char} {n least most : Nat} {t : Timestamp} {d : CivilDate}

/-! ### What the parts can be -/

theorem number_lt {ds : List Char} (h : ∀ c ∈ ds, c.isDigit = true) :
    number ds < 10 ^ ds.length := by
  induction ds using List.reverseRecOn with
  | nil => exact Nat.one_pos
  | append_singleton ds c ih =>
    have hc : c.isDigit = true := h c (by simp)
    simp only [Char.isDigit, Bool.and_eq_true, decide_eq_true_eq] at hc
    have hdigit : c.toNat ≤ 57 := hc.2
    have hnumber : number (ds ++ [c]) = number ds * 10 + (c.toNat - 48) := by
      rw [number, List.foldl_append]
      rfl
    have hds := ih fun c hmem => h c (List.mem_append_left _ hmem)
    rw [hnumber, List.length_append, List.length_singleton, Nat.pow_succ]
    omega

/-- A number of so many digits is below that power of ten. -/
theorem lt_of_digits (h : digits least most cs = some (n, rest)) : n < 10 ^ most := by
  unfold digits at h
  dsimp only at h
  split at h
  · cases h
  · cases h
    have hdigits : ∀ c ∈ leadingDigits most cs, c.isDigit = true := fun c hc =>
      List.mem_takeWhile_imp hc
    have hlength : (leadingDigits most cs).length ≤ most :=
      ((List.takeWhile_prefix _).length_le).trans (List.length_take_le _ _)
    exact (number_lt hdigits).trans_le (Nat.pow_le_pow_right (by omega) hlength)

theorem isRegular_of_ofParts? {hour minute second nano : Nat} (hd : d.isValid = true)
    (h : ofParts? d hour minute second nano = some t) : t.IsRegular ∧ t.date = d := by
  unfold ofParts? at h
  split at h
  · next hparts =>
    cases h
    exact ⟨⟨hd, hparts.1, hparts.2.1, hparts.2.2.1, hparts.2.2.2⟩, rfl⟩
  · cases h

/-- A shift by a time zone leads to a point in time again, away from the ends of the calendar. -/
theorem IsRegular.atOffset (h : t.IsRegular) (hyear : -262143 < t.date.year ∧ t.date.year < 262142)
    (offset : Int) : (t.atOffset offset).IsRegular where
  date := by
    unfold Timestamp.atOffset
    dsimp only
    split
    · exact CivilDate.isValid_previous h.date hyear.1
    · split
      · exact CivilDate.isValid_next h.date hyear.2
      · exact h.date
  hour := by
    show (((t.hour * 60 + t.minute : Nat) - offset : Int) % 1440).toNat / 60 < 24
    omega
  minute := Nat.mod_lt _ (by omega)
  second := h.second
  nano := h.nano

theorem isRegular_midnight (hd : d.isValid = true) : (midnight d).IsRegular :=
  ⟨hd, Nat.zero_lt_succ _, Nat.zero_lt_succ _, Nat.zero_le _, Nat.zero_lt_succ _⟩

/-! ### What the readers give -/

theorem isValid_of_looseDate (h : looseDate cs = some (d, rest)) : d.isValid = true := by
  unfold looseDate at h
  obtain ⟨⟨year, cs⟩, -, h⟩ := Option.bind_eq_some_iff.1 h
  obtain ⟨cs, -, h⟩ := Option.bind_eq_some_iff.1 h
  obtain ⟨⟨month, cs⟩, -, h⟩ := Option.bind_eq_some_iff.1 h
  obtain ⟨cs, -, h⟩ := Option.bind_eq_some_iff.1 h
  obtain ⟨⟨day, cs⟩, -, h⟩ := Option.bind_eq_some_iff.1 h
  obtain ⟨date, hdate, h⟩ := Option.bind_eq_some_iff.1 h
  cases h
  exact (CivilDate.isValid_of_ofParts? hdate).1

theorem isRegular_of_looseTime (hd : d.isValid = true) (h : looseTime d cs = some t) :
    t.IsRegular := by
  unfold looseTime at h
  obtain ⟨⟨hour, cs⟩, -, h⟩ := Option.bind_eq_some_iff.1 h
  obtain ⟨cs, -, h⟩ := Option.bind_eq_some_iff.1 h
  obtain ⟨⟨minute, cs⟩, -, h⟩ := Option.bind_eq_some_iff.1 h
  obtain ⟨cs, -, h⟩ := Option.bind_eq_some_iff.1 h
  obtain ⟨⟨second, cs⟩, -, h⟩ := Option.bind_eq_some_iff.1 h
  obtain ⟨⟨nano, cs⟩, -, h⟩ := Option.bind_eq_some_iff.1 h
  dsimp only at h
  split at h
  · exact (isRegular_of_ofParts? hd h).1
  · cases h

theorem isRegular_of_readMarked? (h : readMarked? cs = some t) : t.IsRegular := by
  unfold readMarked? at h
  obtain ⟨⟨date, cs⟩, hdate, h⟩ := Option.bind_eq_some_iff.1 h
  obtain ⟨cs, -, h⟩ := Option.bind_eq_some_iff.1 h
  exact isRegular_of_looseTime (isValid_of_looseDate hdate) h

theorem isRegular_of_readSpaced? (h : readSpaced? cs = some t) : t.IsRegular := by
  unfold readSpaced? at h
  obtain ⟨⟨date, cs⟩, hdate, h⟩ := Option.bind_eq_some_iff.1 h
  exact isRegular_of_looseTime (isValid_of_looseDate hdate) h

theorem isRegular_of_readDate? (h : readDate? cs = some t) : t.IsRegular := by
  unfold readDate? at h
  obtain ⟨⟨date, cs⟩, hdate, h⟩ := Option.bind_eq_some_iff.1 h
  dsimp only at h
  split at h
  · cases h
    exact isRegular_midnight (isValid_of_looseDate hdate)
  · cases h

/-- In the strict form the year has four digits, so a time zone does not lead out of the
calendar. -/
theorem isRegular_of_readZoned? (h : readZoned? cs = some t) : t.IsRegular := by
  unfold readZoned? at h
  -- of all parts that are read, only the year is bounded by its width here
  obtain ⟨⟨year, cs⟩, hyear, h⟩ := Option.bind_eq_some_iff.1 h
  obtain ⟨cs, -, h⟩ := Option.bind_eq_some_iff.1 h
  obtain ⟨⟨month, cs⟩, -, h⟩ := Option.bind_eq_some_iff.1 h
  obtain ⟨cs, -, h⟩ := Option.bind_eq_some_iff.1 h
  obtain ⟨⟨day, cs⟩, -, h⟩ := Option.bind_eq_some_iff.1 h
  obtain ⟨cs, -, h⟩ := Option.bind_eq_some_iff.1 h
  obtain ⟨⟨hour, cs⟩, -, h⟩ := Option.bind_eq_some_iff.1 h
  obtain ⟨cs, -, h⟩ := Option.bind_eq_some_iff.1 h
  obtain ⟨⟨minute, cs⟩, -, h⟩ := Option.bind_eq_some_iff.1 h
  obtain ⟨cs, -, h⟩ := Option.bind_eq_some_iff.1 h
  obtain ⟨⟨second, cs⟩, -, h⟩ := Option.bind_eq_some_iff.1 h
  obtain ⟨⟨nano, cs⟩, -, h⟩ := Option.bind_eq_some_iff.1 h
  obtain ⟨⟨offset, cs⟩, -, h⟩ := Option.bind_eq_some_iff.1 h
  dsimp only at h
  split at h
  · cases h
  · obtain ⟨date, hdate, h⟩ := Option.bind_eq_some_iff.1 h
    obtain ⟨reading, hreading, h⟩ := Option.bind_eq_some_iff.1 h
    obtain ⟨hvalid, hdateYear⟩ := CivilDate.isValid_of_ofParts? hdate
    obtain ⟨hregular, hsame⟩ := isRegular_of_ofParts? hvalid hreading
    have hlt : year < 10 ^ 4 := lt_of_digits hyear
    cases h
    refine hregular.atOffset ?_ offset
    rw [hsame, hdateYear]
    omega

/-- **Whatever is read is a point in time.** -/
theorem isRegular_of_read? {text : String} (h : read? text = some t) : t.IsRegular := by
  unfold read? at h
  dsimp only at h
  rcases (Option.orElse_eq_some _ _ _).1 h with h | ⟨-, h⟩
  · exact isRegular_of_readZoned? h
  · rcases (Option.orElse_eq_some _ _ _).1 h with h | ⟨-, h⟩
    · exact isRegular_of_readMarked? h
    · rcases (Option.orElse_eq_some _ _ _).1 h with h | ⟨-, h⟩
      · exact isRegular_of_readSpaced? h
      · exact isRegular_of_readDate? h

/-! ### Reading again -/

/-- What is cut off is not written. -/
theorem engineText_cut (t : Timestamp) : (t.cut 6).engineText = t.engineText := by
  have hnano : t.nano / 10 ^ (9 - 6) * 10 ^ (9 - 6) / 1000 = t.nano / 1000 := by omega
  rw [engineText, engineText, cut, hnano]
  rfl

theorem isoText_cut (t : Timestamp) : (t.cut 3).isoText = t.isoText := by
  have hnano : t.nano / 10 ^ (9 - 3) * 10 ^ (9 - 3) / 1000000 = t.nano / 1000000 := by omega
  rw [isoText, isoText, cut, hnano]
  rfl

/-- **Dates survive storage.**  Whatever has been read is read back from its texts, from that of a
column to the microsecond and from that inside documents to the millisecond, and then has the same
text again. -/
theorem texts_of_read? {text : String} (h : read? text = some t) :
    read? t.engineText = some (t.cut 6) ∧ (t.cut 6).engineText = t.engineText ∧
      (0 ≤ t.date.year ∧ t.date.year ≤ 9999 →
        read? t.isoText = some (t.cut 3) ∧ (t.cut 3).isoText = t.isoText) := by
  have hregular := isRegular_of_read? h
  refine ⟨read?_engineText hregular, engineText_cut t, fun hyear => ⟨?_, isoText_cut t⟩⟩
  exact read?_isoText ⟨hregular.date, hyear, hregular.hour, hregular.minute, hregular.second,
    hregular.nano⟩

theorem texts_of_read?_leapSecond :
    read? "2016-12-31T23:59:60.9876543219-09:30" =
        some ⟨⟨2017, 1, 1⟩, 9, 29, 60, 987654321⟩ ∧
      read? "2017-01-01 09:29:60.987654" = some ⟨⟨2017, 1, 1⟩, 9, 29, 60, 987654000⟩ ∧
      read? "2017-01-01T09:29:60.987Z" = some ⟨⟨2017, 1, 1⟩, 9, 29, 60, 987000000⟩ ∧
      read? " -44-3-15 7:5:60" = some ⟨⟨-44, 3, 15⟩, 7, 5, 60, 0⟩ ∧
      read? "-0044-03-15 07:05:60.000000" = some ⟨⟨-44, 3, 15⟩, 7, 5, 60, 0⟩ := by
  have hleap : read? "2016-12-31T23:59:60.9876543219-09:30" =
      some ⟨⟨2017, 1, 1⟩, 9, 29, 60, 987654321⟩ := by decide +kernel
  have hold : read? " -44-3-15 7:5:60" = some ⟨⟨-44, 3, 15⟩, 7, 5, 60, 0⟩ := by decide +kernel
  obtain ⟨hengine, -, hiso⟩ := texts_of_read? hleap
  exact ⟨hleap, hengine, (hiso (by decide)).1, hold, (texts_of_read? hold).1⟩

end Timestamp

end DocStore
