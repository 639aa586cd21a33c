import DocumentLink.Number.Power

/-!
# Finite Binary64 Numbers

The finite values of the 64-bit binary floating-point format, held as a sign, a
significand and an exponent of two.

A number read from a document must keep its exact value until some rule rounds
or truncates it, and every such rule has to be arguable. Machine floating point
gives no equations to argue with, so the value is kept in whole numbers: `x`
stands for `significand * 2 ^ exponent` with a sign. A value has many such
pairs; `Canonical` singles out the one the format itself uses, so that two
numbers are the same bits exactly when they are equal here. Zero keeps its
sign.

Infinities and not-a-number have no place in a document and are left out, which
is why rounding a quotient that is too large yields nothing.

## Main definitions

* `Binary64.leadingBit`: The first of the 53 bits of a significand.
* `Binary64.Canonical`: The significand and exponent pairs of the format.
* `Binary64`: A finite number of the format.
* `Binary64.ofQuotient?`: The nearest number to a quotient, a tie going to the
  even significand.
* `Binary64.truncate`: The whole number toward zero.
* `Binary64.isWhole`: Whether there is no fraction.
* `Binary64.toRat`: The exact value.
-/

namespace DocumentLink

/-- The first of the 53 bits of a significand, that is `2 ^ 52`. -/
def Binary64.leadingBit : Nat := 0x10000000000000

/-- A significand and an exponent are canonical if the significand has at most
    53 bits, the exponent is in range, and no further bit could be moved from
    the exponent into the significand. -/
def Binary64.Canonical (significand : Nat) (exponent : Int) : Prop :=
  significand < 2 * leadingBit ∧ -1074 ≤ exponent ∧ exponent ≤ 971 ∧
    (leadingBit ≤ significand ∨ exponent = -1074)

instance (significand : Nat) (exponent : Int) :
    Decidable (Binary64.Canonical significand exponent) := by
  unfold Binary64.Canonical
  infer_instance

/-- A finite number of the format. -/
structure Binary64 where
  negative : Bool
  significand : Nat
  exponent : Int
  canonical : Binary64.Canonical significand exponent
  deriving DecidableEq, Repr

namespace Binary64

/-- Zero, with a sign of its own. -/
def zero (negative : Bool) : Binary64 :=
  ⟨negative, 0, -1074, by decide⟩

instance : Inhabited Binary64 := ⟨zero false⟩

/-- The number with given parts, if they are canonical. -/
def ofParts? (negative : Bool) (significand : Nat) (exponent : Int) : Option Binary64 :=
  if h : Canonical significand exponent then some ⟨negative, significand, exponent, h⟩ else none

/-- The nearest whole number to `n / d`; halfway between two, the even one. -/
def roundDiv (n d : Nat) : Nat :=
  let q := n / d
  let r := n % d
  if 2 * r < d then q
  else if d < 2 * r then q + 1
  else q + q % 2

/-- The exponent of the grid on which `n / d` is rounded: the one that leaves 53
    bits before the point, but never below the least exponent of the format. -/
def gridExponent (n d : Nat) : Int :=
  let spread : Int := (n.log2 : Int) - (d.log2 : Int)
  -- The quotient lies strictly between `2 ^ (spread - 1)` and `2 ^ (spread + 1)`.
  let below : Bool := n * power 2 (-spread) < d * power 2 spread
  max (-1074) (if below then spread - 53 else spread - 52)

/-- The number nearest to `n / d`, or nothing if that is beyond the largest. -/
def ofQuotient? (negative : Bool) (n d : Nat) : Option Binary64 :=
  let e := gridExponent n d
  let m := roundDiv (n * power 2 (-e)) (d * power 2 e)
  -- Rounding up may carry into a 54th bit.
  if m = 2 * leadingBit then ofParts? negative leadingBit (e + 1) else ofParts? negative m e

/-- Whether the number is zero of either sign. -/
def isZero (x : Binary64) : Bool :=
  x.significand = 0

/-- Whether the number has no fraction. -/
def isWhole (x : Binary64) : Bool :=
  0 ≤ x.exponent || x.significand % power 2 (-x.exponent) = 0

/-- The absolute value without its fraction. -/
def wholePart (x : Binary64) : Nat :=
  x.significand * power 2 x.exponent / power 2 (-x.exponent)

/-- The number without its fraction, that is truncated toward zero. -/
def truncate (x : Binary64) : Int :=
  if x.negative then -(x.wholePart : Int) else x.wholePart

/-- The exact value. -/
def toRat (x : Binary64) : Rat :=
  let magnitude : Rat :=
    (x.significand * power 2 x.exponent : Nat) / (power 2 (-x.exponent) : Nat)
  if x.negative then -magnitude else magnitude

end Binary64

end DocumentLink
