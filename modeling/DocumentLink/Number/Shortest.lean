import DocumentLink.Number.Binary64

/-!
# Shortest Decimals

The decimal that stands for a binary number: as few digits as reading it back
allows, and of those the nearest one.

A decimal reads back as `x` exactly when it lies in the interval of values that
round to `x`. The interval reaches half a unit of the significand to each side,
only a quarter below a power of two, where the grid becomes finer, and its ends
belong to it when the significand is even. The decimals with at least a given
unit in the last place form a grid of their own, and a grid that meets the
interval meets it in one of the two neighbours of `x`. So it is enough to make
the unit smaller, power of ten by power of ten, until a neighbour falls in.

Everything is compared as products of whole numbers; nothing is rounded on the
way.

## Main definitions

* `Decimal`: A whole number scaled by a power of ten.
* `Binary64.Interval`: The values that round to a number, in quarters of its
  unit.
* `Binary64.shortest`: The decimal with the fewest digits that reads back.
-/

namespace DocumentLink

/-- The decimal `digits * 10 ^ exponent`. -/
structure Decimal where
  digits : Nat
  exponent : Int
  deriving DecidableEq, Repr

namespace Binary64

/-- The values that round to a number, in quarters of the unit of its
    significand. The ends belong to it if `closed`. -/
structure Interval where
  low : Nat
  high : Nat
  closed : Bool
  deriving DecidableEq, Repr

/-- The interval around a number other than zero. -/
def interval (x : Binary64) : Interval :=
  -- Just below a power of two the next number is only half as far away.
  let finerBelow := x.significand = leadingBit ∧ -1074 < x.exponent
  { low := 4 * x.significand - (if finerBelow then 1 else 2)
    high := 4 * x.significand + 2
    closed := x.significand % 2 = 0 }

/-- Four times the decimal, over the unit of the significand of `x`, as a
    quotient of whole numbers. -/
def inQuarters (x : Binary64) (d : Decimal) : Nat × Nat :=
  (4 * d.digits * power 10 d.exponent * power 2 (-x.exponent),
    power 10 (-d.exponent) * power 2 x.exponent)

/-- Whether a decimal rounds to the number. -/
def readsBack (x : Binary64) (d : Decimal) : Bool :=
  let (n, q) := x.inQuarters d
  let i := x.interval
  if i.closed then i.low * q ≤ n && n ≤ i.high * q else i.low * q < n && n < i.high * q

/-- The largest decimal with unit `10 ^ k` that is not above the absolute value. -/
def floorOn (x : Binary64) (k : Int) : Decimal :=
  ⟨x.significand * power 2 x.exponent * power 10 (-k) / (power 2 (-x.exponent) * power 10 k), k⟩

/-- Of the two neighbours with unit `10 ^ k`, the one to write, if either reads
    back. If both do, it is the nearer, and the even one of two as near. -/
def neighbour? (x : Binary64) (k : Int) : Option Decimal :=
  let below := x.floorOn k
  let above : Decimal := ⟨below.digits + 1, k⟩
  match x.readsBack below, x.readsBack above with
  | false, false => none
  | true, false => some below
  | false, true => some above
  | true, true =>
    -- The number is nearer to the one below if it is under the midpoint.
    let (n, q) := x.inQuarters ⟨below.digits + above.digits, k⟩
    let twice := 8 * x.significand * q
    if twice < n then some below
    else if n < twice then some above
    else if below.digits % 2 = 0 then some below else some above

/-- The decimal found at the first unit, from `10 ^ k` downward, that has one. -/
def shortestFrom (x : Binary64) : Nat → Int → Decimal
  | 0, k => x.floorOn k
  | n + 1, k => (x.neighbour? k).getD (shortestFrom x n (k - 1))

/-- A power of ten, as an exponent, that is above the absolute value. -/
def powerAbove (x : Binary64) : Int :=
  let n := x.significand * power 2 x.exponent
  let d := power 2 (-x.exponent)
  if d ≤ n then (Nat.toDigits 10 (n / d)).length
  else 2 - ((Nat.toDigits 10 (d / n)).length : Int)

/-- The decimal with the fewest digits that reads back as the number, nearest to
    it. Seventeen digits always suffice, so the search ends. -/
def shortest (x : Binary64) : Decimal :=
  if x.isZero then ⟨0, 0⟩ else x.shortestFrom 20 x.powerAbove

end Binary64

end DocumentLink
