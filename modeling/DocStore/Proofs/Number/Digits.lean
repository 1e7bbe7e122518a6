import DocStore.Json.Printer

/-!
# Digits of number texts

Every finite number has a text that begins with a digit, behind a minus sign if it is negative,
and goes on with digits and at most one point, which an exponent part may follow
(`Number.isNumberText_text`).  The shortest decimal of a number other than zero is not zero, so its text
never begins with an exponent (`Decimal.coefficient_shortest_ne_zero`).
-/

namespace DocStore

namespace Decimal

/-! ### The shortest decimal -/

theorem coefficient_onGrid_ne_zero {tie : Tie} {significand : Nat} {exponent scale : Int}
    {d : Decimal} (h : onGrid tie significand exponent scale = some d) : d.coefficient ≠ 0 := by
  unfold onGrid at h
  extract_lets up unit value below inside low toLow toHigh preferHigh at h
  cases hlow : (low != 0 && inside low) with
  | false =>
    cases hhigh : inside (low + 1) with
    | false => simp [hlow, hhigh] at h
    | true =>
      simp only [hlow, hhigh, Option.some.injEq] at h
      simp [← h]
  | true =>
    have hne : low ≠ 0 := by
      simp only [Bool.and_eq_true, bne_iff_ne] at hlow
      exact hlow.1
    cases hhigh : inside (low + 1) with
    | false =>
      simp only [hlow, hhigh, Option.some.injEq] at h
      simpa [← h] using hne
    | true =>
      simp only [hlow, hhigh, Option.some.injEq] at h
      rw [← h]
      dsimp only
      split
      · exact Nat.succ_ne_zero low
      · exact hne

theorem significand_ne_zero {x : Binary64} (h : x.isZero = false) : x.significand ≠ 0 := by
  have hmagnitude : x.magnitude ≠ 0 := by simpa [Binary64.isZero] using h
  unfold Binary64.significand
  split
  · exact hmagnitude
  · exact Nat.ne_of_gt (Nat.add_pos_right _ (Nat.pow_pos (by decide)))

/-- The shortest decimal of a number other than zero is not zero. -/
theorem coefficient_shortest_ne_zero (tie : Tie) {x : Binary64} (h : x.isZero = false) :
    (shortest tie x).coefficient ≠ 0 := by
  unfold shortest
  extract_lets top
  cases hfound : (List.range 19).findSome?
      fun (n : Nat) => onGrid tie x.significand x.exponent (top - n) with
  | none => exact significand_ne_zero h
  | some d =>
    obtain ⟨n, -, hn⟩ := List.exists_of_findSome?_eq_some hfound
    exact coefficient_onGrid_ne_zero hn

/-! ### Digits -/

theorem isDigit_of_mem_digits {d : Decimal} {c : Char} (h : c ∈ d.digits.1) : c.isDigit = true := by
  have hmem : c ∈ Nat.toDigits 10 d.coefficient := by
    have : c ∈ (Nat.toDigits 10 d.coefficient).reverse.dropWhile (· == '0') := by
      simpa [digits] using h
    exact List.mem_reverse.1 ((List.dropWhile_sublist _).subset this)
  exact Nat.isDigit_of_mem_toDigits (by omega) (by omega) hmem

theorem digits_ne_nil {d : Decimal} (h : d.coefficient ≠ 0) : d.digits.1 ≠ [] := by
  intro hnil
  -- a number all of whose digits are zeros is zero
  have hzeros : ∀ c ∈ Nat.toDigits 10 d.coefficient, c = '0' := by
    intro c hc
    have : (Nat.toDigits 10 d.coefficient).reverse.dropWhile (· == '0') = [] := by
      simpa [digits] using hnil
    have hall := List.any_dropWhile (l := (Nat.toDigits 10 d.coefficient).reverse)
      (p := (· == '0'))
    rw [this, List.any_nil, eq_comm, Bool.not_eq_false', List.all_eq_true] at hall
    simpa using hall c (List.mem_reverse.2 hc)
  have hvalue := Nat.ofDigitChars_ten_toDigits (n := d.coefficient)
  rw [List.eq_replicate_of_mem hzeros, Nat.ofDigitChars_replicate_zero, Nat.mul_zero] at hvalue
  exact h hvalue.symm

/-! ### Texts -/

/-- Digits and points. -/
def IsPlain (cs : List Char) : Prop := ∀ c ∈ cs, c.isDigit = true ∨ c = '.'

/-- The text of a number without its sign: a digit, digits and points, and perhaps an exponent
part. -/
def IsUnsigned (cs : List Char) : Prop :=
  ∃ first plain exponent, cs = first :: (plain ++ exponent) ∧ first.isDigit = true ∧
    IsPlain plain ∧ (exponent = [] ∨ ∃ e, exponent = exponentPart e)

theorem IsUnsigned.exists_cons {cs : List Char} (h : IsUnsigned cs) :
    ∃ c rest, cs = c :: rest ∧ c.isDigit = true := by
  obtain ⟨c, plain, exponent, hcs, hc, -⟩ := h
  exact ⟨c, _, hcs, hc⟩

theorem isPlain_of_isDigit {cs : List Char} (h : ∀ c ∈ cs, c.isDigit = true) : IsPlain cs :=
  fun c hc => .inl (h c hc)

theorem IsPlain.append {cs ds : List Char} (hcs : IsPlain cs) (hds : IsPlain ds) :
    IsPlain (cs ++ ds) := by
  intro c hc
  rcases List.mem_append.1 hc with hc | hc
  · exact hcs c hc
  · exact hds c hc

theorem IsPlain.cons_point {cs : List Char} (h : IsPlain cs) : IsPlain ('.' :: cs) := by
  intro c hc
  rcases List.mem_cons.1 hc with rfl | hc
  · exact .inr rfl
  · exact h c hc

theorem isPlain_replicate (n : Nat) : IsPlain (List.replicate n '0') := by
  refine isPlain_of_isDigit fun c hc => ?_
  rw [List.eq_of_mem_replicate hc]
  rfl

theorem isUnsigned_of_isPlain {first : Char} {plain : List Char} (hfirst : first.isDigit = true)
    (hplain : IsPlain plain) : IsUnsigned (first :: plain) :=
  ⟨first, plain, [], by simp, hfirst, hplain, .inl rfl⟩

theorem isUnsigned_toDigits (n : Nat) : IsUnsigned (Nat.toDigits 10 n) := by
  have hdigit : ∀ c ∈ Nat.toDigits 10 n, c.isDigit = true := fun c hc =>
    Nat.isDigit_of_mem_toDigits (by omega) (by omega) hc
  cases h : Nat.toDigits 10 n with
  | nil => exact absurd h Nat.toDigits_ne_nil
  | cons d rest =>
    rw [h] at hdigit
    exact isUnsigned_of_isPlain (hdigit d List.mem_cons_self)
      (isPlain_of_isDigit fun c hc => hdigit c (List.mem_cons_of_mem _ hc))

theorem isUnsigned_place {layout : Layout} (hend : IsPlain layout.wholeEnd) {ds : List Char}
    (hds : ∀ c ∈ ds, c.isDigit = true) (hne : ds ≠ []) (e : Int) :
    IsUnsigned (layout.place ds e) := by
  obtain ⟨d, rest, rfl⟩ := List.exists_cons_of_ne_nil hne
  have hd : d.isDigit = true := hds d List.mem_cons_self
  have hrest : ∀ c ∈ rest, c.isDigit = true := fun c hc => hds c (List.mem_cons_of_mem _ hc)
  unfold Layout.place
  split
  · split
    · refine isUnsigned_of_isPlain rfl (IsPlain.cons_point ?_)
      exact (isPlain_replicate _).append (isPlain_of_isDigit hds)
    · split
      · rw [List.cons_append, List.cons_append]
        exact isUnsigned_of_isPlain hd
          (((isPlain_of_isDigit hrest).append (isPlain_replicate _)).append hend)
      · rw [List.take_succ_cons, List.drop_succ_cons, List.cons_append]
        refine isUnsigned_of_isPlain hd (IsPlain.append ?_ (IsPlain.cons_point ?_))
        · exact isPlain_of_isDigit fun c hc => hrest c (List.mem_of_mem_take hc)
        · exact isPlain_of_isDigit fun c hc => hrest c (List.mem_of_mem_drop hc)
  · cases rest with
    | nil => exact ⟨d, [], exponentPart e, by simp, hd, by simp [IsPlain], .inr ⟨e, rfl⟩⟩
    | cons second rest =>
      exact ⟨d, '.' :: second :: rest, exponentPart e, by simp, hd,
        (isPlain_of_isDigit hrest).cons_point, .inr ⟨e, rfl⟩⟩

/-- A text of a number: a sign, if it is negative, and what is behind it. -/
def IsNumberText (cs : List Char) : Prop := IsUnsigned cs ∨ ∃ unsigned, cs = '-' :: unsigned ∧
  IsUnsigned unsigned

theorem isNumberText_write {layout : Layout} (hend : IsPlain layout.wholeEnd) (x : Binary64) :
    IsNumberText (layout.write x).toList := by
  have hbody : IsUnsigned
      (if x.isZero then '0' :: layout.wholeEnd
      else layout.place (shortest layout.tie x).digits.1 (shortest layout.tie x).digits.2) := by
    cases hzero : x.isZero with
    | true => exact isUnsigned_of_isPlain rfl hend
    | false =>
      exact isUnsigned_place hend (fun c hc => isDigit_of_mem_digits hc)
        (digits_ne_nil (coefficient_shortest_ne_zero layout.tie hzero)) _
  rw [Layout.write, String.toList_ofList]
  cases x.isNegative with
  | true => exact .inr ⟨_, rfl, hbody⟩
  | false => exact .inl hbody

end Decimal

namespace Number

/-- The number has a text of its own. -/
def isFinite : Number → Bool
  | .int _ => true
  | .float x => x.isFinite

/-- **Every finite number has the text of a number.** -/
theorem isNumberText_text {n : Number} (h : n.isFinite = true) :
    Decimal.IsNumberText n.text.toList := by
  cases n with
  | int value =>
    cases value with
    | ofNat m =>
      refine .inl ?_
      have htext : (text (.int (.ofNat m))).toList = Nat.toDigits 10 m := by
        show (Nat.repr m).toList = _
        simp
      rw [htext]
      exact Decimal.isUnsigned_toDigits m
    | negSucc m =>
      refine .inr ⟨Nat.toDigits 10 (m + 1), ?_, Decimal.isUnsigned_toDigits (m + 1)⟩
      show ("-" ++ Nat.repr (m + 1)).toList = _
      simp
  | float x =>
    have hx : x.isFinite = true := h
    rw [text, if_pos hx]
    refine Decimal.isNumberText_write ?_ x
    intro c hc
    simp [layout] at hc
    rcases hc with rfl | rfl
    · exact .inr rfl
    · exact .inl rfl

end Number

end DocStore
