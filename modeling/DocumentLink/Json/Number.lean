import DocumentLink.Number.Shortest

/-!
# Numbers of Documents

A number in a document is a whole number or a binary fraction, and the two stay
apart: `1` and `1.0` are different values with different texts, although every
reader of a field treats them alike.

Whole numbers have the range of a signed or an unsigned 64-bit word. A numeral
outside it is a fraction like any numeral with a point or an exponent, and so is
the negative zero, which no whole number can hold.

## Main definitions

* `Json.Number`: A whole number or a fraction.
* `Json.Number.ofInt`: The number a whole numeral stands for.
* `Json.Number.toBinary64`: The nearest fraction.
* `Json.Number.toRat`: The exact value.
* `Json.Number.text`: How a number is written.
-/

namespace DocumentLink

namespace Json

/-- The signed words of 64 bits end before this number, and begin at its negative. -/
def signedLimit : Int := 0x8000000000000000

/-- The unsigned words of 64 bits end before this number. -/
def unsignedLimit : Int := 0x10000000000000000

/-- The whole numbers a document holds exactly. -/
def WholeRange (n : Int) : Prop :=
  -signedLimit ≤ n ∧ n < unsignedLimit

instance (n : Int) : Decidable (WholeRange n) := by
  unfold WholeRange
  infer_instance

/-- A number of a document. -/
inductive Number where
  | whole (n : Int) (range : WholeRange n)
  | fraction (x : Binary64)
  deriving DecidableEq, Repr

namespace Number

instance : Inhabited Number := ⟨.whole 0 (by decide)⟩

/-- The fraction nearest to a whole number. -/
def fractionOfInt (n : Int) : Binary64 :=
  -- A number with up to 64 bits is far from the largest fraction.
  (Binary64.ofQuotient? (n < 0) n.natAbs 1).getD default

/-- The number a whole numeral stands for: itself if it is in range, and else
    the nearest fraction. -/
def ofInt (n : Int) : Number :=
  if h : WholeRange n then .whole n h else .fraction (fractionOfInt n)

instance (n : Nat) : OfNat Number n := ⟨ofInt n⟩

/-- The nearest fraction. -/
def toBinary64 : Number → Binary64
  | whole n _ => fractionOfInt n
  | fraction x => x

/-- The exact value. -/
def toRat : Number → Rat
  | whole n _ => n
  | fraction x => x.toRat

end Number

/-- Where a fraction is written with digits alone, and where with an exponent. -/
structure FractionLayout where
  /-- The value is below ten to this power and the digits end before it. -/
  pointTo : Int
  /-- The leading digit stands for at least ten to this power. -/
  pointFrom : Int

/-- Fractions from `0.00001` up to but not including `1e+16` are written out. -/
def fractionLayout : FractionLayout := ⟨16, -5⟩

/-- A run of zeros. -/
def zeros (n : Nat) : List Char :=
  List.replicate n '0'

/-- A decimal with a point: always at least one digit on each side of it. -/
def pointText (digits : List Char) (exponent : Int) : List Char :=
  if 0 ≤ exponent then digits ++ zeros exponent.toNat ++ ['.', '0']
  else
    let places := (-exponent).toNat
    if places < digits.length then
      digits.take (digits.length - places) ++ '.' :: digits.drop (digits.length - places)
    else '0' :: '.' :: zeros (places - digits.length) ++ digits

/-- A decimal with one digit before the point and a signed exponent. -/
def exponentText (digits : List Char) (scale : Int) : List Char :=
  let mantissa := match digits with
    | [] => []
    | [d] => [d]
    | d :: rest => d :: '.' :: rest
  let sign := if scale < 0 then '-' else '+'
  mantissa ++ 'e' :: sign :: Nat.toDigits 10 scale.natAbs

/-- How a fraction is written: the shortest digits that read back, with a point
    or an exponent. -/
def fractionText (x : Binary64) : String :=
  let d := x.shortest
  let digits := Nat.toDigits 10 d.digits
  -- The power of ten the leading digit stands for.
  let scale := d.exponent + digits.length - 1
  let body :=
    if x.isZero || (fractionLayout.pointFrom ≤ scale && scale < fractionLayout.pointTo) then
      pointText digits d.exponent
    else exponentText digits scale
  String.ofList (if x.negative then '-' :: body else body)

/-- How a number is written. -/
def Number.text : Number → String
  | .whole n _ => toString n
  | .fraction x => fractionText x

end Json

end DocumentLink
