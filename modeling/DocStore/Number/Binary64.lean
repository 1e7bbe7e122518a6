/-!
# Binary floating point numbers of 64 bits

A number is its bit pattern: a sign bit, eleven exponent bits and 52 fraction bits.  A finite
number stands for `± significand · 2 ^ exponent`, and every operation here is defined on these
natural numbers: the exact result is rounded once by `ofRatio`, to the nearest number and to the
even one of two that are equally near.
-/

namespace DocStore

/-- A binary floating point number, given by its bits. -/
structure Binary64 where
  bits : UInt64
  deriving DecidableEq, Repr

namespace Binary64

/-- The sign bit. -/
def isNegative (x : Binary64) : Bool := decide (Nat.pow 2 63 ≤ x.bits.toNat)

/-- The bits below the sign. -/
def magnitude (x : Binary64) : Nat := x.bits.toNat % Nat.pow 2 63

/-- The pattern of infinity. -/
def infinity : Nat := 2047 * Nat.pow 2 52

/-- Neither an infinity nor a NaN. -/
def isFinite (x : Binary64) : Bool := decide (x.magnitude < infinity)

/-- No number at all. -/
def isNaN (x : Binary64) : Bool := decide (infinity < x.magnitude)

/-- Both zeros. -/
def isZero (x : Binary64) : Bool := x.magnitude == 0

/-- The biased exponent, at least one. -/
def field (x : Binary64) : Nat := max (x.magnitude / Nat.pow 2 52) 1

/-- The significand of a finite number, including its hidden bit. -/
def significand (x : Binary64) : Nat :=
  if x.magnitude < Nat.pow 2 52 then x.magnitude
  else x.magnitude % Nat.pow 2 52 + Nat.pow 2 52

/-- The power of two that a finite number's significand is multiplied by. -/
def exponent (x : Binary64) : Int := (x.field : Int) - 1075

/-- A number from its sign and the bits below it. -/
def ofMagnitude (negative : Bool) (magnitude : Nat) : Binary64 :=
  ⟨UInt64.ofNat (if negative then magnitude + Nat.pow 2 63 else magnitude)⟩

/-- The natural number nearest to `num / den`, and the even one of two. -/
def nearest (num den : Nat) : Nat :=
  let quotient := num / den
  let twice := 2 * (num % den)
  if den < twice || (twice == den && quotient % 2 == 1) then quotient + 1 else quotient

/-- `num / den` divided by `2 ^ power`, as a fraction. -/
def scaledDown (num den : Nat) (power : Int) : Nat × Nat :=
  (num * Nat.pow 2 (-power).toNat, den * Nat.pow 2 power.toNat)

/-- The number nearest to `± num / den`.  The significand is read on the grid `2 ^ power` that
gives it 53 bits, or on the finest grid there is; a carry out of the significand runs into the
exponent bits by itself. -/
def ofRatio (negative : Bool) (num den : Nat) : Binary64 :=
  if num = 0 then ofMagnitude negative 0
  else
    let estimate := max ((num.log2 : Int) - (den.log2 : Int) - 53) (-1074)
    let coarse := scaledDown num den estimate
    let power := if coarse.1 / coarse.2 < Nat.pow 2 53 then estimate else estimate + 1
    let scaled := scaledDown num den power
    let magnitude := (power + 1074).toNat * Nat.pow 2 52 + nearest scaled.1 scaled.2
    ofMagnitude negative (min magnitude infinity)

/-- The number nearest to an integer. -/
def ofInt (n : Int) : Binary64 := ofRatio (decide (n < 0)) n.natAbs 1

/-- `± significand · 2 ^ exponent` as a fraction of natural numbers, without its sign. -/
def toRatio (x : Binary64) : Nat × Nat :=
  (x.significand * Nat.pow 2 x.exponent.toNat, Nat.pow 2 (-x.exponent).toNat)

/-- The rounded product of two finite numbers; anything else stays without a finite value. -/
def mul (x y : Binary64) : Binary64 :=
  let negative := x.isNegative != y.isNegative
  if x.isFinite && y.isFinite then
    ofRatio negative (x.toRatio.1 * y.toRatio.1) (x.toRatio.2 * y.toRatio.2)
  else if x.isNaN || y.isNaN || x.isZero || y.isZero then ofMagnitude negative (infinity + 1)
  else ofMagnitude negative infinity

/-- The rounded quotient of a finite number by a finite number other than zero. -/
def div (x y : Binary64) : Binary64 :=
  ofRatio (x.isNegative != y.isNegative) (x.toRatio.1 * y.toRatio.2) (x.toRatio.2 * y.toRatio.1)

/-- The number with the other sign. -/
def neg (x : Binary64) : Binary64 := ofMagnitude (!x.isNegative) x.magnitude

/-- The place of a number that is not a NaN on the line of all numbers; both zeros share one. -/
def rank (x : Binary64) : Int := if x.isNegative then -(x.magnitude : Int) else x.magnitude

/-- The order of numbers; nothing is comparable to a NaN. -/
def le (x y : Binary64) : Bool := !x.isNaN && !y.isNaN && decide (x.rank ≤ y.rank)

/-- Equality of numbers: the zeros are equal, and a NaN equals nothing. -/
def same (x y : Binary64) : Bool := !x.isNaN && !y.isNaN && x.rank == y.rank

/-- The number nearest to `10 ^ k`. -/
def powerOfTen (k : Nat) : Binary64 := ofRatio false (Nat.pow 10 k) 1

end Binary64

end DocStore
