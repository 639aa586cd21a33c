import DocumentLink.Document.Fields
import Mathlib.Data.Rat.Cast.Defs

/-!
# Exact Numbers

What a number in a document is worth, and what a 32-bit reading of it finds.

A number is written in more than one way. Its value is a rational number and does not depend on
that: a fraction without a fractional part is worth a whole number, and a whole number is worth
itself. A 32-bit reading goes by the value alone. It asks whether a fraction is whole, cuts off
what a 64-bit word does not hold, and looks whether the rest has 32 bits. Nothing that was cut
off is taken for another number, because what has to be cut off is far out of range, and so is
a whole number that has to be rounded first.

## Main definitions

* `Json.Number.IsInt32`: The value is an integer of 32 bits.

## Theorems

* `Binary64.toRat_eq_intCast_iff`: The fractions that are worth an integer.
* `Binary64.exists_ofQuotient?_eq`: What a whole number is rounded to.
* `Json.Number.toInteger32?_eq_some_iff`: What a 32-bit reading finds.
* `Document.int32?_eq_some_iff`: The same of a field.
-/

namespace DocumentLink

namespace Binary64

/-- A fraction is whole if its divisor divides it. -/
theorem isWhole_iff_dvd {x : Binary64} :
    x.isWhole = true ↔ power 2 (-x.exponent) ∣ x.significand * power 2 x.exponent := by
  by_cases hexponent : 0 ≤ x.exponent
  · have hdivisor : power 2 (-x.exponent) = 1 := power_of_nonpos 2 (by omega)
    rw [isWhole, decide_eq_true hexponent, Bool.true_or, hdivisor]
    exact iff_of_true rfl (Nat.one_dvd _)
  · have hfactor : power 2 x.exponent = 1 := power_of_nonpos 2 (by omega)
    rw [isWhole, decide_eq_false hexponent, Bool.false_or, decide_eq_true_eq, hfactor, Nat.mul_one,
      Nat.dvd_iff_mod_eq_zero]

/-- What stands above the line, with its sign. -/
def numerator (x : Binary64) : Int :=
  let n : Nat := x.significand * power 2 x.exponent
  if x.negative then -n else n

theorem toRat_eq_div (x : Binary64) :
    x.toRat = (x.numerator : Rat) / (power 2 (-x.exponent) : Nat) := by
  rw [toRat, numerator]
  cases x.negative <;> simp [neg_div]

/-- A whole fraction is the number without its fraction. -/
theorem numerator_of_isWhole {x : Binary64} (h : x.isWhole = true) :
    x.numerator = x.truncate * (power 2 (-x.exponent) : Nat) := by
  have hmagnitude : x.wholePart * power 2 (-x.exponent) = x.significand * power 2 x.exponent :=
    Nat.div_mul_cancel (isWhole_iff_dvd.mp h)
  rw [numerator, truncate, ← hmagnitude]
  cases x.negative <;> simp

/-- The fractions that are worth an integer. -/
theorem toRat_eq_intCast_iff {x : Binary64} {i : Int} :
    x.toRat = i ↔ x.isWhole = true ∧ x.truncate = i := by
  have hdivisor : (power 2 (-x.exponent) : Nat) ≠ 0 := (power_pos (by decide) _).ne'
  have hvalue : x.toRat = i ↔ x.numerator = i * (power 2 (-x.exponent) : Nat) := by
    rw [toRat_eq_div, div_eq_iff (Nat.cast_ne_zero.mpr hdivisor), ← Int.cast_natCast,
      ← Int.cast_mul, Int.cast_inj]
  rw [hvalue]
  constructor
  · intro hnumerator
    have hwhole : x.isWhole = true := by
      rw [isWhole_iff_dvd, ← Int.natCast_dvd_natCast]
      have hdvd : ((power 2 (-x.exponent) : Nat) : Int) ∣ x.numerator := ⟨i, by
        rw [hnumerator, Int.mul_comm]⟩
      rw [numerator] at hdvd
      cases hnegative : x.negative with
      | false => simpa [hnegative] using hdvd
      | true => simpa [hnegative] using hdvd
    refine ⟨hwhole, ?_⟩
    rw [numerator_of_isWhole hwhole] at hnumerator
    exact Int.eq_of_mul_eq_mul_right (Int.natCast_ne_zero.mpr hdivisor) hnumerator
  · rintro ⟨hwhole, rfl⟩
    exact numerator_of_isWhole hwhole

/-- Rounding to whole numbers does not go below a whole number. -/
theorem le_roundDiv {n d m : Nat} (hd : 0 < d) (h : m * d ≤ n) : m ≤ roundDiv n d := by
  have hm : m ≤ n / d := (Nat.le_div_iff_mul_le hd).mpr h
  rw [roundDiv]
  split
  · exact hm
  · split <;> omega

theorem roundDiv_le {n d m : Nat} (h : n < m * d) : roundDiv n d ≤ m := by
  have hm : n / d < m := Nat.div_lt_of_lt_mul (by rwa [Nat.mul_comm])
  rw [roundDiv]
  split
  · omega
  · split <;> omega

theorem power_log2_le {n : Nat} (hpos : 0 < n) : power 2 n.log2 ≤ n :=
  Nat.log2_self_le hpos.ne'

theorem lt_power_log2 (n : Nat) : n < 2 * power 2 n.log2 := by
  have hlog : n < Nat.pow 2 (n.log2 + 1) := Nat.lt_log2_self
  have hpower : power 2 n.log2 = Nat.pow 2 n.log2 := rfl
  rw [hpower, Nat.mul_comm]
  exact hlog

/-- On the grid of a power of two, whichever side of the line the unit is on, the power has 53
    bits. -/
theorem power_mul_power (k : Nat) :
    power 2 k * power 2 (52 - k) = leadingBit * power 2 (k - 52) := by
  have hleading : leadingBit = power 2 52 := rfl
  rw [hleading, power, power, power, power, Nat.pow_eq, Nat.pow_eq, Nat.pow_eq, Nat.pow_eq,
    ← Nat.pow_add, ← Nat.pow_add]
  congr 1
  omega

/-- A whole number is rounded on the grid that leaves it 53 bits. -/
theorem gridExponent_whole {n : Nat} (hpos : 0 < n) : gridExponent n 1 = (n.log2 : Int) - 52 := by
  have hspread : ((n.log2 : Nat) : Int) - ((Nat.log2 1 : Nat) : Int) = n.log2 := by
    have hone : Nat.log2 1 = 0 := by decide
    omega
  have hone : power 2 (-(n.log2 : Int)) = 1 := power_of_nonpos 2 (by omega)
  have hbelow : ¬n * power 2 (-(n.log2 : Int)) < 1 * power 2 n.log2 := by
    have hleast := power_log2_le hpos
    rw [hone]
    omega
  simp only [gridExponent, hspread, decide_eq_true_eq, if_neg hbelow]
  omega

/-- A whole number of 64 bits is rounded to one that has all the bits there are room for, so to
    none that is zero. Rounding up may add a bit. -/
theorem exists_ofQuotient?_eq (negative : Bool) {n : Nat} (hpos : 0 < n)
    (hlimit : n < 0x10000000000000000) :
    ∃ x, ofQuotient? negative n 1 = some x ∧ x.negative = negative ∧
      leadingBit ≤ x.significand ∧
      (x.exponent = (n.log2 : Int) - 52 ∨ x.exponent = (n.log2 : Int) - 51) := by
  have hlog : n.log2 < 64 := (Nat.log2_lt hpos.ne').mpr hlimit
  have hleading : leadingBit = 0x10000000000000 := rfl
  have hdivisor : 0 < power 2 ((n.log2 : Int) - 52) := power_pos (by decide) _
  have hunit : power 2 (-((n.log2 : Int) - 52)) = power 2 (52 - (n.log2 : Int)) :=
    congrArg (power 2) (by omega)
  have hleast : leadingBit * power 2 ((n.log2 : Int) - 52) ≤
      n * power 2 (52 - (n.log2 : Int)) := by
    rw [← power_mul_power]
    exact Nat.mul_le_mul_right _ (power_log2_le hpos)
  have hmost : n * power 2 (52 - (n.log2 : Int)) <
      2 * leadingBit * power 2 ((n.log2 : Int) - 52) := by
    rw [Nat.mul_assoc, ← power_mul_power, ← Nat.mul_assoc]
    exact Nat.mul_lt_mul_of_pos_right (lt_power_log2 n) (power_pos (by decide) _)
  have hatLeast := le_roundDiv hdivisor hleast
  have hatMost := roundDiv_le hmost
  rw [ofQuotient?, gridExponent_whole hpos]
  simp only [hunit, Nat.one_mul]
  by_cases hcarry : roundDiv (n * power 2 (52 - (n.log2 : Int)))
      (power 2 ((n.log2 : Int) - 52)) = 2 * leadingBit
  · rw [if_pos hcarry, ofParts?, dif_pos ⟨by decide, by omega, by omega, .inl (Nat.le_refl _)⟩]
    exact ⟨_, rfl, rfl, Nat.le_refl _, .inr (show (n.log2 : Int) - 52 + 1 = _ by omega)⟩
  · rw [if_neg hcarry, ofParts?, dif_pos ⟨by omega, by omega, by omega, .inl hatLeast⟩]
    exact ⟨_, rfl, rfl, hatLeast, .inl rfl⟩

end Binary64

namespace Json

namespace Number

/-- What a whole number other than zero is rounded to: a number of the same sign, with all the bits
    there are room for. -/
theorem fractionOfInt_of_ne_zero {n : Int} (hrange : WholeRange n) (hn : n ≠ 0) :
    (fractionOfInt n).negative = decide (n < 0) ∧
      Binary64.leadingBit ≤ (fractionOfInt n).significand ∧
      ((fractionOfInt n).exponent = (n.natAbs.log2 : Int) - 52 ∨
        (fractionOfInt n).exponent = (n.natAbs.log2 : Int) - 51) := by
  have hsigned : signedLimit = 0x8000000000000000 := rfl
  have hunsigned : unsignedLimit = 0x10000000000000000 := rfl
  rcases hrange with ⟨hleast, hlimit⟩
  rcases Binary64.exists_ofQuotient?_eq (n < 0) (n := n.natAbs) (by omega) (by omega) with
    ⟨x, hx, hfacts⟩
  rw [fractionOfInt, hx, Option.getD_some]
  exact hfacts

/-- A whole number that has to be rounded first is far out of the range of 32 bits. -/
theorem signedLimit_le_truncate {n : Int} (h : signedLimit ≤ n) (hrange : WholeRange n) :
    signedLimit ≤ (fractionOfInt n).truncate := by
  have hleast : (0x8000000000000000 : Int) ≤ n := h
  have hlimit : n < (0x10000000000000000 : Int) := hrange.2
  rcases fractionOfInt_of_ne_zero hrange (by omega) with ⟨hpositive, hsignificand, hexponent⟩
  have hlog : n.natAbs.log2 = 63 := (Nat.log2_eq_iff (by omega)).mpr ⟨by omega, by omega⟩
  rw [hlog] at hexponent
  rw [Binary64.truncate, hpositive, decide_eq_false (by omega)]
  have hleading : Binary64.leadingBit = 0x10000000000000 := rfl
  -- The significand has 53 bits, and eleven more follow.
  have hwhole : 0x8000000000000000 ≤ (fractionOfInt n).wholePart := by
    rw [Binary64.wholePart]
    rcases hexponent with hexponent | hexponent <;> rw [hexponent]
    · have hfactor : power 2 ((63 : Nat) - 52) = 2048 := rfl
      have hdivisor : power 2 (-((63 : Nat) - 52)) = 1 := rfl
      rw [hfactor, hdivisor, Nat.div_one]
      omega
    · have hfactor : power 2 ((63 : Nat) - 51) = 4096 := rfl
      have hdivisor : power 2 (-((63 : Nat) - 51)) = 1 := rfl
      rw [hfactor, hdivisor, Nat.div_one]
      omega
  exact Int.ofNat_le.mpr hwhole

/-- The value is an integer of 32 bits. -/
def IsInt32 (n : Number) (i : Int) : Prop :=
  n.toRat = i ∧ -narrowLimit ≤ i ∧ i < narrowLimit

/-- A number that no 64-bit word holds is read as the fraction that it is or is rounded to. -/
theorem toInteger32?_of_rounded {n : Number} (h : n.integer64? = none) {i : Int} :
    n.toInteger32? = some i ↔
      (n.toBinary64.isWhole = true ∧ n.toBinary64.truncate = i) ∧
        -narrowLimit ≤ i ∧ i < narrowLimit := by
  have hnarrow : narrowLimit = 0x80000000 := rfl
  have hsigned : signedLimit = 0x8000000000000000 := rfl
  simp only [toInteger32?, h, Option.filter_eq_some_iff, Bool.and_eq_true, decide_eq_true_eq]
  by_cases hwhole : n.toBinary64.isWhole = true
  · rw [if_pos hwhole, Option.some.injEq, clamp64, and_iff_right hwhole]
    omega
  · simp only [hwhole, Bool.false_eq_true, if_false, reduceCtorEq, false_and]

/-- A 32-bit reading finds the value, if it is an integer of 32 bits, and nothing else. -/
theorem toInteger32?_eq_some_iff {n : Number} {i : Int} :
    n.toInteger32? = some i ↔ n.IsInt32 i := by
  rw [IsInt32]
  cases n with
  | whole k range =>
      rw [toRat, Int.cast_inj]
      by_cases hk : k < signedLimit
      · simp only [toInteger32?, integer64?, if_pos hk, Option.filter_eq_some_iff,
          Option.some.injEq, Bool.and_eq_true, decide_eq_true_eq]
      · -- Neither the number nor what it is rounded to is in range.
        have hround := signedLimit_le_truncate (Int.not_lt.mp hk) range
        have hnarrow : narrowLimit = 0x80000000 := rfl
        have hsigned : signedLimit = 0x8000000000000000 := rfl
        rw [toInteger32?_of_rounded (n := .whole k range) (if_neg hk), toBinary64]
        omega
  | fraction x => rw [toInteger32?_of_rounded rfl, toRat, Binary64.toRat_eq_intCast_iff, toBinary64]

end Number

end Json

/-- What a 32-bit reading of a field finds is the value of the number that is there. -/
theorem Document.int32?_eq_some_iff {d : Document} {key : String} {i : Int} :
    d.int32? key = some i ↔ ∃ n, d.number? key = some n ∧ n.IsInt32 i := by
  rw [int32?, Option.bind_eq_some_iff]
  simp only [Json.Number.toInteger32?_eq_some_iff]

end DocumentLink
