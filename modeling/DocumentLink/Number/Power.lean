/-!
# Powers with Signed Exponents

A whole number times a power of two or ten is a quotient of whole numbers,
whatever the sign of the exponent: a positive power multiplies above the line, a
negative one below it. So `m * b ^ e` is written as `m * power b e` over
`power b (-e)`, of which one factor is always one, and no case has to be made.

## Main definitions

* `power`: A power, which is one for exponents below zero.

## Theorems

* `power_of_nonpos`: One of the two factors is one.
* `power_pos`: A quotient with a power below the line has a divisor.
-/

namespace DocumentLink

/-- A power of a base, which is one for exponents below zero. -/
def power (base : Nat) (exponent : Int) : Nat :=
  Nat.pow base exponent.toNat

/-- The power of an exponent that is not positive is one. -/
theorem power_of_nonpos (base : Nat) {exponent : Int} (h : exponent ≤ 0) :
    power base exponent = 1 := by
  simp only [power, Int.toNat_of_nonpos h, Nat.pow_zero, Nat.pow_eq]

/-- A power of a positive base can stand below the line. -/
theorem power_pos {base : Nat} (h : 0 < base) (exponent : Int) : 0 < power base exponent :=
  Nat.pow_pos h

end DocumentLink
