import DocStore.Row.Geometry
import Mathlib.Algebra.BigOperators.Intervals
import Mathlib.Algebra.BigOperators.Ring.Finset
import Mathlib.Data.List.GetD

/-!
# Stored points

Every byte of a number counts with a power of 256, the first byte with the lowest one in the
little-endian order and with the highest one in the big-endian order (`Geometry.wordAt`).  What is
read from a part of the bytes is the number that stands there, and nothing is read from a part that
ends behind them (`Geometry.readAt_eq`).

So a point is read from the bytes that hold one and from no others (`Geometry.HoldsPoint`), whatever
names the reference system and whatever follows, and its coordinates are the patterns at their
places (`Geometry.point?_eq_some_iff`).  In particular it is read back from its stored form in both
byte orders (`Geometry.point?_storedPoint`).
-/

namespace DocStore

namespace Geometry

open Finset

variable {bytes : List UInt8} {littleEndian : Bool} {start count n : Nat}

/-! ### Numbers -/

/-- The exponent of 256 with which the byte at a distance from the first one counts. -/
def weight (littleEndian : Bool) (count distance : Nat) : Nat :=
  if littleEndian then distance else count - 1 - distance

/-- The number that `count` bytes from `start` on stand for. -/
def wordAt (littleEndian : Bool) (bytes : List UInt8) (start count : Nat) : Nat :=
  ∑ i ∈ range count, (bytes.getD (start + i) 0).toNat * 256 ^ weight littleEndian count i

theorem ofBytes_concat (bytes : List UInt8) (b : UInt8) :
    ofBytes (bytes ++ [b]) = ofBytes bytes * 256 + b.toNat := by
  rw [ofBytes, List.foldl_append]
  rfl

theorem ofBytes_lt (bytes : List UInt8) : ofBytes bytes < 256 ^ bytes.length := by
  induction bytes using List.reverseRecOn with
  | nil => exact Nat.one_pos
  | append_singleton bytes b ih =>
    have hb : b.toNat < 256 := b.toNat_lt
    rw [ofBytes_concat, List.length_append, List.length_singleton, Nat.pow_succ]
    omega

/-- With the highest byte first, the last byte counts one. -/
theorem ofBytes_eq_wordAt (bytes : List UInt8) :
    ofBytes bytes = wordAt false bytes 0 bytes.length := by
  induction bytes using List.reverseRecOn with
  | nil => rfl
  | append_singleton bytes b ih =>
    have hlast : ((bytes ++ [b]).getD (0 + bytes.length) 0).toNat = b.toNat := by simp
    have hbefore : ∀ i ∈ range bytes.length,
        ((bytes ++ [b]).getD (0 + i) 0).toNat * 256 ^ (bytes.length + 1 - 1 - i) =
          (bytes.getD (0 + i) 0).toNat * 256 ^ (bytes.length - 1 - i) * 256 := by
      intro i hi
      have hlt : i < bytes.length := mem_range.1 hi
      have hpow : bytes.length + 1 - 1 - i = bytes.length - 1 - i + 1 := by omega
      rw [Nat.zero_add, List.getD_append _ _ _ _ hlt, hpow, Nat.pow_succ, Nat.mul_assoc]
    simp only [wordAt, weight, Bool.false_eq_true, if_false] at ih ⊢
    rw [ofBytes_concat, ih, sum_mul, List.length_append, List.length_singleton, sum_range_succ,
      sum_congr rfl hbefore, hlast, Nat.add_sub_cancel, Nat.sub_self, Nat.pow_zero, Nat.mul_one]

/-- With the lowest byte first, the first byte counts one. -/
theorem ofBytes_reverse_eq_wordAt (bytes : List UInt8) :
    ofBytes bytes.reverse = wordAt true bytes 0 bytes.length := by
  induction bytes with
  | nil => rfl
  | cons b bytes ih =>
    have hbehind : ∀ i ∈ range bytes.length,
        ((b :: bytes).getD (0 + (i + 1)) 0).toNat * 256 ^ (i + 1) =
          (bytes.getD (0 + i) 0).toNat * 256 ^ i * 256 := by
      intro i _
      rw [Nat.zero_add, Nat.zero_add, List.getD_cons_succ, Nat.pow_succ, Nat.mul_assoc]
    simp only [wordAt, weight, if_true] at ih ⊢
    rw [List.reverse_cons, ofBytes_concat, ih, List.length_cons, sum_range_succ', sum_mul,
      sum_congr rfl hbehind, Nat.pow_zero, Nat.mul_one]
    rfl

/-- The bytes of a number, the highest one first. -/
def highestFirst (littleEndian : Bool) (bytes : List UInt8) : List UInt8 :=
  if littleEndian then bytes.reverse else bytes

theorem length_highestFirst (littleEndian : Bool) (bytes : List UInt8) :
    (highestFirst littleEndian bytes).length = bytes.length := by
  cases littleEndian with
  | true => exact List.length_reverse
  | false => rfl

theorem ofBytes_highestFirst (littleEndian : Bool) (bytes : List UInt8) :
    ofBytes (highestFirst littleEndian bytes) = wordAt littleEndian bytes 0 bytes.length := by
  cases littleEndian with
  | true => exact ofBytes_reverse_eq_wordAt bytes
  | false => exact ofBytes_eq_wordAt bytes

/-- A number stands in the bytes around it as it does alone. -/
theorem wordAt_part (littleEndian : Bool) (bytes : List UInt8) (start count : Nat) :
    wordAt littleEndian ((bytes.drop start).take count) 0 count =
      wordAt littleEndian bytes start count := by
  refine sum_congr rfl fun i hi => ?_
  have hlt : i < count := mem_range.1 hi
  rw [Nat.zero_add, List.getD_eq_getElem?_getD, List.getD_eq_getElem?_getD,
    List.getElem?_take_of_lt hlt, List.getElem?_drop]

theorem ofBytes_part (littleEndian : Bool) (h : count ≤ bytes.length - start) :
    ofBytes (highestFirst littleEndian ((bytes.drop start).take count)) =
      wordAt littleEndian bytes start count := by
  have hlength : ((bytes.drop start).take count).length = count := by simpa using h
  rw [ofBytes_highestFirst, hlength, wordAt_part]

/-- **A number is read if its bytes are all there**, and as the number that stands there. -/
theorem readAt_eq (littleEndian : Bool) (bytes : List UInt8) (start count : Nat) :
    readAt littleEndian bytes start count =
      if count ≤ bytes.length - start then some (wordAt littleEndian bytes start count)
      else none := by
  have hlength : ((bytes.drop start).take count).length = min count (bytes.length - start) := by
    simp
  unfold readAt
  dsimp only
  by_cases h : count ≤ bytes.length - start
  · rw [if_pos h, if_neg (by omega), ← ofBytes_part littleEndian h]
    rfl
  · rw [if_neg h, if_pos (by omega)]

theorem wordAt_lt (h : count ≤ bytes.length - start) :
    wordAt littleEndian bytes start count < 256 ^ count := by
  have hlength : ((bytes.drop start).take count).length = count := by simpa using h
  have hlt := ofBytes_lt (highestFirst littleEndian ((bytes.drop start).take count))
  rwa [ofBytes_part littleEndian h, length_highestFirst, hlength] at hlt

/-! ### The stored form of a number -/

/-- The bytes of a number. -/
def toBytes (littleEndian : Bool) (count n : Nat) : List UInt8 :=
  (List.range count).map fun i => UInt8.ofNat (n / 256 ^ weight littleEndian count i)

@[simp] theorem length_toBytes (littleEndian : Bool) (count n : Nat) :
    (toBytes littleEndian count n).length = count := by
  simp [toBytes]

theorem sum_bytes (count n : Nat) :
    ∑ i ∈ range count, n / 256 ^ i % 256 * 256 ^ i = n % 256 ^ count := by
  induction count with
  | zero => simp [Nat.mod_one]
  | succ count ih => rw [sum_range_succ, ih, Nat.mod_pow_succ, Nat.mul_comm (256 ^ count)]

/-- **A number is what stands in its bytes.** -/
theorem wordAt_toBytes (littleEndian : Bool) (hn : n < 256 ^ count) :
    wordAt littleEndian (toBytes littleEndian count n) 0 count = n := by
  have hbyte : ∀ i ∈ range count,
      ((toBytes littleEndian count n).getD (0 + i) 0).toNat * 256 ^ weight littleEndian count i =
        n / 256 ^ weight littleEndian count i % 256 * 256 ^ weight littleEndian count i := by
    intro i hi
    have hlt : i < count := mem_range.1 hi
    rw [Nat.zero_add, List.getD_eq_getElem _ _ (by simpa using hlt)]
    simp [toBytes]
  rw [wordAt, sum_congr rfl hbyte]
  calc ∑ i ∈ range count,
        n / 256 ^ weight littleEndian count i % 256 * 256 ^ weight littleEndian count i
      = ∑ i ∈ range count, n / 256 ^ i % 256 * 256 ^ i := by
        cases littleEndian with
        | true => rfl
        | false => exact sum_range_reflect (fun i => n / 256 ^ i % 256 * 256 ^ i) count
    _ = n % 256 ^ count := sum_bytes count n
    _ = n := Nat.mod_eq_of_lt hn

/-- A number is what stands behind the bytes before it, whatever follows. -/
theorem wordAt_append (littleEndian : Bool) (before rest : List UInt8) (hn : n < 256 ^ count) :
    wordAt littleEndian (before ++ (toBytes littleEndian count n ++ rest)) before.length count =
      n := by
  rw [← wordAt_part, List.drop_left, List.take_left' (length_toBytes _ _ _),
    wordAt_toBytes littleEndian hn]

/-! ### Points -/

/-- The byte that names a byte order. -/
def orderByte (littleEndian : Bool) : UInt8 := if littleEndian then 1 else 0

/-- Bytes that hold a point: there are enough of them, and they name the byte order and the type of
a point. -/
structure HoldsPoint (littleEndian : Bool) (bytes : List UInt8) : Prop where
  length : 25 ≤ bytes.length
  order : bytes[4]? = some (orderByte littleEndian)
  type : wordAt littleEndian bytes 5 4 = pointType

/-- The patterns of two coordinates. -/
def coordinates (littleEndian : Bool) (bytes : List UInt8) : Binary64 × Binary64 :=
  (⟨UInt64.ofNat (wordAt littleEndian bytes 9 8)⟩, ⟨UInt64.ofNat (wordAt littleEndian bytes 17 8)⟩)

/-- Behind a byte that names the byte order, what is read depends on the length and the type. -/
theorem point?_of_order (horder : bytes[4]? = some (orderByte littleEndian)) :
    point? bytes =
      if 25 ≤ bytes.length ∧ wordAt littleEndian bytes 5 4 = pointType then
        some (coordinates littleEndian bytes)
      else none := by
  have hread : point? bytes = (readAt littleEndian bytes 5 4).bind fun type =>
      if type ≠ pointType then none
      else (readAt littleEndian bytes 9 8).bind fun x =>
        (readAt littleEndian bytes 17 8).bind fun y =>
          some (⟨UInt64.ofNat x⟩, ⟨UInt64.ofNat y⟩) := by
    rw [point?, horder]
    cases littleEndian <;> rfl
  rw [hread]
  by_cases hlength : 25 ≤ bytes.length
  · rw [readAt_eq, if_pos (by omega), readAt_eq, if_pos (by omega), readAt_eq, if_pos (by omega)]
    by_cases htype : wordAt littleEndian bytes 5 4 = pointType
    · rw [if_pos ⟨hlength, htype⟩, Option.bind_some, if_neg (not_not_intro htype)]
      rfl
    · rw [if_neg fun h => htype h.2, Option.bind_some, if_pos htype]
  · -- the second coordinate does not lie within the bytes
    have hlast : readAt littleEndian bytes 17 8 = none := by rw [readAt_eq, if_neg (by omega)]
    rw [if_neg fun h => hlength h.1, hlast]
    -- whatever stands before it, nothing is read
    cases readAt littleEndian bytes 5 4 with
    | none => rfl
    | some type =>
      rw [Option.bind_some]
      split
      · rfl
      · cases readAt littleEndian bytes 9 8 <;> rfl

theorem exists_order_of_point? {p : Binary64 × Binary64} (h : point? bytes = some p) :
    ∃ littleEndian, bytes[4]? = some (orderByte littleEndian) := by
  unfold point? at h
  obtain ⟨order, horder, h⟩ := Option.bind_eq_some_iff.1 h
  dsimp only at h
  rw [horder]
  split at h
  · next hzero => exact ⟨false, congrArg some hzero⟩
  · split at h
    · next hone => exact ⟨true, congrArg some hone⟩
    · cases h

/-- The coordinates are the patterns at their places. -/
theorem HoldsPoint.eq_coordinates_iff (h : HoldsPoint littleEndian bytes)
    {p : Binary64 × Binary64} :
    p = coordinates littleEndian bytes ↔
      p.1.bits.toNat = wordAt littleEndian bytes 9 8 ∧
        p.2.bits.toNat = wordAt littleEndian bytes 17 8 := by
  have hlength := h.length
  have hpattern : ∀ start, 8 ≤ bytes.length - start →
      (UInt64.ofNat (wordAt littleEndian bytes start 8)).toNat =
        wordAt littleEndian bytes start 8 := fun start hstart =>
    UInt64.toNat_ofNat_of_lt' (wordAt_lt hstart)
  obtain ⟨⟨x⟩, ⟨y⟩⟩ := p
  rw [coordinates, Prod.mk.injEq, Binary64.mk.injEq, Binary64.mk.injEq, ← UInt64.toNat_inj,
    ← UInt64.toNat_inj, hpattern 9 (by omega), hpattern 17 (by omega)]

theorem point?_eq_some_iff {p : Binary64 × Binary64} :
    point? bytes = some p ↔ ∃ littleEndian, HoldsPoint littleEndian bytes ∧
      p = coordinates littleEndian bytes := by
  constructor
  · intro h
    obtain ⟨littleEndian, horder⟩ := exists_order_of_point? h
    rw [point?_of_order horder] at h
    split at h
    · next hpoint => exact ⟨littleEndian, ⟨hpoint.1, horder, hpoint.2⟩, (Option.some.inj h).symm⟩
    · cases h
  · rintro ⟨littleEndian, hpoint, rfl⟩
    rw [point?_of_order hpoint.order, if_pos ⟨hpoint.length, hpoint.type⟩]

/-- The stored form of a point: a reference system, the byte order, the type and the coordinates. -/
def storedPoint (system : UInt32) (littleEndian : Bool) (p : Binary64 × Binary64) : List UInt8 :=
  toBytes true 4 system.toNat ++ orderByte littleEndian ::
    (toBytes littleEndian 4 pointType ++
      (toBytes littleEndian 8 p.1.bits.toNat ++ toBytes littleEndian 8 p.2.bits.toNat))

/-- **A point is read back from its stored form**, whatever follows. -/
theorem point?_storedPoint (system : UInt32) (littleEndian : Bool) (p : Binary64 × Binary64)
    (rest : List UInt8) : point? (storedPoint system littleEndian p ++ rest) = some p := by
  obtain ⟨bytes, hbytes⟩ : ∃ bytes, storedPoint system littleEndian p ++ rest = bytes := ⟨_, rfl⟩
  have htype : wordAt littleEndian bytes 5 4 = pointType := by
    have hread := wordAt_append littleEndian
      (toBytes true 4 system.toNat ++ [orderByte littleEndian])
      (toBytes littleEndian 8 p.1.bits.toNat ++ (toBytes littleEndian 8 p.2.bits.toNat ++ rest))
      (show pointType < 256 ^ 4 by decide)
    simpa [← hbytes, storedPoint] using hread
  have hx : wordAt littleEndian bytes 9 8 = p.1.bits.toNat := by
    have hread := wordAt_append littleEndian
      (toBytes true 4 system.toNat ++ orderByte littleEndian :: toBytes littleEndian 4 pointType)
      (toBytes littleEndian 8 p.2.bits.toNat ++ rest)
      (show p.1.bits.toNat < 256 ^ 8 from p.1.bits.toNat_lt)
    simpa [← hbytes, storedPoint] using hread
  have hy : wordAt littleEndian bytes 17 8 = p.2.bits.toNat := by
    have hread := wordAt_append littleEndian
      (toBytes true 4 system.toNat ++ orderByte littleEndian ::
        (toBytes littleEndian 4 pointType ++ toBytes littleEndian 8 p.1.bits.toNat)) rest
      (show p.2.bits.toNat < 256 ^ 8 from p.2.bits.toNat_lt)
    simpa [← hbytes, storedPoint] using hread
  have hpoint : HoldsPoint littleEndian bytes :=
    ⟨by simp [← hbytes, storedPoint]; omega, by simp [← hbytes, storedPoint], htype⟩
  rw [hbytes, point?_eq_some_iff]
  exact ⟨littleEndian, hpoint, hpoint.eq_coordinates_iff.2 ⟨hx.symm, hy.symm⟩⟩

/-- **Stored points are decoded exactly.**  Bytes are read as a point if and only if they hold one,
its coordinates are the patterns at their places, and every pair of numbers is read back from its
stored form. -/
theorem point?_decodes (bytes : List UInt8) :
    ((∃ p, point? bytes = some p) ↔ ∃ littleEndian, HoldsPoint littleEndian bytes) ∧
      (∀ p, point? bytes = some p ↔ ∃ littleEndian, HoldsPoint littleEndian bytes ∧
        p.1.bits.toNat = wordAt littleEndian bytes 9 8 ∧
        p.2.bits.toNat = wordAt littleEndian bytes 17 8) ∧
      ∀ system littleEndian p, point? (storedPoint system littleEndian p ++ bytes) = some p := by
  refine ⟨⟨?_, ?_⟩, fun p => ?_, fun system littleEndian p => ?_⟩
  · rintro ⟨p, hp⟩
    obtain ⟨littleEndian, hpoint, -⟩ := point?_eq_some_iff.1 hp
    exact ⟨littleEndian, hpoint⟩
  · rintro ⟨littleEndian, hpoint⟩
    exact ⟨_, point?_eq_some_iff.2 ⟨littleEndian, hpoint, rfl⟩⟩
  · rw [point?_eq_some_iff]
    exact exists_congr fun littleEndian => and_congr_right fun hpoint => hpoint.eq_coordinates_iff
  · exact point?_storedPoint system littleEndian p bytes

end Geometry

end DocStore
