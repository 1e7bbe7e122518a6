import DocStore.Number.Binary64

/-!
# Shortest decimal texts of binary floating point numbers

Among the decimals that lie in the interval of reals rounding to a number, `shortest` takes one
with the fewest digits, and of these the nearest to the number.  On the grid of decimals with a
given number of digits only the two neighbours of the number have to be looked at, so the search
runs over at most seventeen grids in exact arithmetic of natural numbers.

How the digits are laid out is a separate matter: a `Layout` says which exponents are written
positionally, what a whole number ends in, and which way a tie between two digits goes.
-/

namespace DocStore

/-- The decimal `coefficient · 10 ^ scale`. -/
structure Decimal where
  coefficient : Nat
  scale : Int
  deriving DecidableEq, Repr

namespace Decimal

/-- Which of two equally near decimals is taken. -/
inductive Tie where
  | toEven
  | up
  deriving DecidableEq, Repr

/-- The decimal on the grid `10 ^ scale` that rounds to `significand · 2 ^ exponent`, if there is
one.  The interval reaches half a unit up and, below a power of two, a quarter of a unit down;
its ends count iff the significand is even.  All quantities are measured in quarter units. -/
def onGrid (tie : Tie) (significand : Nat) (exponent scale : Int) : Option Decimal :=
  let up := Nat.pow 2 exponent.toNat * Nat.pow 10 (-scale).toNat
  let unit := 4 * Nat.pow 2 (-exponent).toNat * Nat.pow 10 scale.toNat
  let value := 4 * significand * up
  let below := if significand = Nat.pow 2 52 ∧ -1074 < exponent then up else 2 * up
  let inside (coefficient : Nat) : Bool :=
    let point := coefficient * unit
    if significand % 2 = 0 then value - below ≤ point && point ≤ value + 2 * up
    else value - below < point && point < value + 2 * up
  let low := value / unit
  let toLow := value - low * unit
  let toHigh := (low + 1) * unit - value
  let preferHigh :=
    toHigh < toLow || (toHigh == toLow && match tie with | .up => true | .toEven => low % 2 == 1)
  match low != 0 && inside low, inside (low + 1) with
  | true, true => some ⟨if preferHigh then low + 1 else low, scale⟩
  | true, false => some ⟨low, scale⟩
  | false, true => some ⟨low + 1, scale⟩
  | false, false => none

/-- The decimal exponent of `significand · 2 ^ exponent`, up to one too small. -/
def estimate (significand : Nat) (exponent : Int) : Int :=
  Int.fdiv ((exponent + significand.log2) * 30103) 100000

/-- The shortest decimal of a finite number other than zero.  Seventeen digits always suffice;
the search starts one grid higher because the estimate may be one too small. -/
def shortest (tie : Tie) (x : Binary64) : Decimal :=
  let top := estimate x.significand x.exponent + 1
  ((List.range 19).findSome? fun (n : Nat) => onGrid tie x.significand x.exponent (top - n)).getD
    ⟨x.significand, x.exponent⟩

/-- How the digits of a number are laid out. -/
structure Layout where
  /-- Whether numbers with this exponent of ten are written without an exponent part. -/
  positional : Int → Bool
  /-- What a whole number ends in. -/
  wholeEnd : List Char
  tie : Tie

/-- The digits of a coefficient without its trailing zeros, and the exponent of ten that the
first of them stands at. -/
def digits (d : Decimal) : List Char × Int :=
  let all := Nat.toDigits 10 d.coefficient
  ((all.reverse.dropWhile (· == '0')).reverse, d.scale + all.length - 1)

/-- The exponent part: a mark, a sign and the digits. -/
def exponentPart (e : Int) : List Char :=
  'e' :: (if e < 0 then '-' else '+') :: Nat.toDigits 10 e.natAbs

/-- Digits laid out around the point. -/
def Layout.place (layout : Layout) (ds : List Char) (e : Int) : List Char :=
  if layout.positional e then
    if e < 0 then '0' :: '.' :: List.replicate (e.natAbs - 1) '0' ++ ds
    else if ds.length ≤ e.toNat + 1 then
      ds ++ List.replicate (e.toNat + 1 - ds.length) '0' ++ layout.wholeEnd
    else ds.take (e.toNat + 1) ++ '.' :: ds.drop (e.toNat + 1)
  else
    match ds with
    | [] => exponentPart e
    | [d] => d :: exponentPart e
    | d :: rest => d :: '.' :: rest ++ exponentPart e

/-- The text of a number that is not infinite. -/
def Layout.write (layout : Layout) (x : Binary64) : String :=
  let sign := if x.isNegative then ['-'] else []
  let body :=
    if x.isZero then '0' :: layout.wholeEnd
    else
      let (ds, e) := (shortest layout.tie x).digits
      layout.place ds e
  String.ofList (sign ++ body)

end Decimal

end DocStore
