import DocumentLink.Proofs.Exactness
import Mathlib.Data.Rat.Floor

/-!
# Readings of Numbers

A field with a number can be read as 32 bits, as 64 bits and as a flag, and each reading is a
function of the value of the number. The three ways to write a number take different routes to
it: a whole number of a signed word is taken as it is, a greater one is first rounded to a
fraction, and a fraction is truncated.

The value of a number is rational. To truncate a fraction is to truncate its value. Rounding
does harm nowhere: a whole number that is rounded is too great for a signed word, and so is what
it is rounded to, so both are cut off to the greatest one; and a whole number other than zero is
not rounded to zero.

## Main definitions

* `Json.towardZero`: A value without its fraction.
* `Document.ReadAs`: What the readings of a field say about its value.

## Theorems

* `Binary64.truncate_eq_towardZero`: Truncating a fraction truncates its value.
* `Json.Number.toInteger64_eq`, `Json.Number.toFlag_iff`: A 64-bit reading and a flag, by the
  value.
* `Document.numbers_exact`: What a field with a number is read as.
-/

namespace DocumentLink

namespace Json

/-- A value without its fraction, that is truncated toward zero. -/
def towardZero (v : Rat) : Int :=
  if 0 ≤ v then ⌊v⌋ else ⌈v⌉

theorem towardZero_intCast (i : Int) : towardZero i = i := by
  rw [towardZero, Int.floor_intCast, Int.ceil_intCast, ite_self]

/-- Truncation is the same on both sides of zero. -/
theorem towardZero_neg (v : Rat) : towardZero (-v) = -towardZero v := by
  rcases lt_trichotomy v 0 with hneg | rfl | hpos
  · rw [towardZero, towardZero, if_pos (neg_nonneg.mpr hneg.le), if_neg (not_le.mpr hneg),
      Int.floor_neg]
  · rfl
  · rw [towardZero, towardZero, if_neg (not_le.mpr (neg_neg_iff_pos.mpr hpos)), if_pos hpos.le,
      Int.ceil_neg]

theorem towardZero_natCast_div (n d : Nat) : towardZero ((n : Rat) / d) = (n / d : Nat) := by
  rw [towardZero, if_pos (by positivity)]
  exact Rat.floor_natCast_div_natCast n d

end Json

namespace Binary64

/-- Truncating a fraction truncates its value. -/
theorem truncate_eq_towardZero (x : Binary64) : x.truncate = Json.towardZero x.toRat := by
  rw [truncate, toRat, wholePart]
  cases x.negative with
  | false => exact (Json.towardZero_natCast_div _ _).symm
  | true => rw [if_pos rfl, if_pos rfl, Json.towardZero_neg, Json.towardZero_natCast_div]

theorem isZero_iff {x : Binary64} : x.isZero = true ↔ x.toRat = 0 := by
  have hdivisor : (power 2 (-x.exponent) : Nat) ≠ 0 := (power_pos (by decide) _).ne'
  have hfactor : power 2 x.exponent ≠ 0 := (power_pos (by decide) _).ne'
  have hnumerator : x.numerator = 0 ↔ x.significand * power 2 x.exponent = 0 := by
    rw [numerator]
    cases x.negative <;> simp only [Bool.false_eq_true, if_false, if_true] <;> omega
  rw [isZero, decide_eq_true_eq, toRat_eq_div, div_eq_zero_iff, Nat.cast_eq_zero,
    or_iff_left hdivisor, Int.cast_eq_zero, hnumerator, Nat.mul_eq_zero, or_iff_left hfactor]

end Binary64

namespace Json

namespace Number

/-- A 64-bit reading finds the value without its fraction, or the end of the range that is next
    to it. -/
theorem toInteger64_eq (n : Number) : n.toInteger64 = clamp64 (towardZero n.toRat) := by
  cases n with
  | fraction x => exact congrArg clamp64 x.truncate_eq_towardZero
  | whole k range =>
      have hsigned : signedLimit = 0x8000000000000000 := rfl
      have hleast := range.1
      rw [toRat, towardZero_intCast, toInteger64, integer64?]
      unfold clamp64
      split
      · rw [Option.getD_some]
        omega
      · -- The number and what it is rounded to are both beyond the range.
        have hround := signedLimit_le_truncate (Int.not_lt.mp ‹_›) range
        rw [Option.getD_none, toBinary64]
        omega

/-- A number counts as true unless its value is zero. -/
theorem toFlag_iff (n : Number) : n.toFlag = true ↔ n.toRat ≠ 0 := by
  rw [toFlag, Bool.not_eq_true', ← Bool.not_eq_true, not_congr]
  cases n with
  | fraction x => exact Binary64.isZero_iff
  | whole k range =>
      rw [toBinary64, toRat, Int.cast_eq_zero]
      by_cases hk : k = 0
      · subst hk
        exact iff_of_true (by decide) rfl
      · have hsignificand := (fractionOfInt_of_ne_zero range hk).2.1
        have hleading : Binary64.leadingBit = 0x10000000000000 := rfl
        refine iff_of_false ?_ hk
        rw [Binary64.isZero, decide_eq_true_eq]
        omega

end Number

end Json

namespace Document

/-- What the readings of a field say about a value. -/
structure ReadAs (d : Document) (key : String) (v : Rat) : Prop where
  /-- 32 bits are found if the value is an integer of that range, and nothing otherwise. -/
  int32 : ∀ i, d.int32? key = some i ↔ v = i ∧ -0x80000000 ≤ i ∧ i < 0x80000000
  /-- An integer of 64 bits is found as it is. -/
  integer_of_eq : ∀ i : Int, v = i → -0x8000000000000000 ≤ i → i < 0x8000000000000000 →
    d.integer? key = some i
  /-- Otherwise the fraction is left out, and the rest moved into the range. -/
  integer : d.integer? key =
    some (max (-0x8000000000000000) (min (Json.towardZero v) 0x7fffffffffffffff))
  /-- A flag is set unless the value is zero. -/
  flag_iff : d.flag key = true ↔ v ≠ 0
  /-- What 32 bits find, 64 bits find. -/
  agree : ∀ i, d.int32? key = some i → d.integer? key = some i

variable {d : Document} {key : String} {n : Json.Number}

theorem number?_of_get? (h : d.get? key = some (.number n)) : d.number? key = some n := by
  rw [number?, h]

theorem integer?_of_get? (h : d.get? key = some (.number n)) :
    d.integer? key =
      some (max (-0x8000000000000000) (min (Json.towardZero n.toRat) 0x7fffffffffffffff)) := by
  rw [integer?, number?_of_get? h, Option.map_some, n.toInteger64_eq]
  rfl

theorem int32?_of_get? (h : d.get? key = some (.number n)) (i : Int) :
    d.int32? key = some i ↔ n.toRat = i ∧ -0x80000000 ≤ i ∧ i < 0x80000000 := by
  rw [int32?, number?_of_get? h, Option.bind_some]
  exact Json.Number.toInteger32?_eq_some_iff

theorem flag_of_get? (h : d.get? key = some (.number n)) : d.flag key = true ↔ n.toRat ≠ 0 := by
  rw [flag, h]
  exact n.toFlag_iff

theorem readAs_of_get? (h : d.get? key = some (.number n)) : d.ReadAs key n.toRat := by
  have hinteger : ∀ i : Int, n.toRat = i → -0x8000000000000000 ≤ i → i < 0x8000000000000000 →
      d.integer? key = some i := by
    intro i hvalue hleast hlimit
    rw [integer?_of_get? h, hvalue, Json.towardZero_intCast]
    congr 1
    omega
  refine ⟨int32?_of_get? h, hinteger, integer?_of_get? h, flag_of_get? h, fun i hi => ?_⟩
  rcases (int32?_of_get? h i).mp hi with ⟨hvalue, hleast, hlimit⟩
  exact hinteger i hvalue (by omega) (by omega)

/-- Readings that say the same about a value are the same. -/
theorem ReadAs.unique {d' : Document} {key' : String} {v : Rat} (h : d.ReadAs key v)
    (h' : d'.ReadAs key' v) :
    d.int32? key = d'.int32? key' ∧ d.integer? key = d'.integer? key' ∧
      d.flag key = d'.flag key' := by
  refine ⟨Option.ext fun i => ?_, h.integer.trans h'.integer.symm, ?_⟩
  · exact (h.int32 i).trans (h'.int32 i).symm
  · rw [Bool.eq_iff_iff, h.flag_iff, h'.flag_iff]

/-- The readings of a field with a number say what its value is, whatever the value. So they do
    not depend on how the number is written. -/
theorem numbers_exact (h : d.get? key = some (.number n)) :
    d.ReadAs key n.toRat ∧
      ∀ (d' : Document) (key' : String) (n' : Json.Number),
        d'.get? key' = some (.number n') → n'.toRat = n.toRat →
        d'.int32? key' = d.int32? key ∧ d'.integer? key' = d.integer? key ∧
          d'.flag key' = d.flag key := by
  refine ⟨readAs_of_get? h, fun d' key' n' h' hvalue => ?_⟩
  have hread' := readAs_of_get? h'
  rw [hvalue] at hread'
  exact hread'.unique (readAs_of_get? h)

/-- The first number beyond the signed words, written in two ways. One has to be rounded and the
    other is a fraction, and both are cut off. -/
theorem numbers_exact_beyond :
    let n : Json.Number := .whole 0x8000000000000000 (by decide)
    let x : Json.Number := .fraction ⟨false, 0x10000000000000, 11, by decide⟩
    let d : Document := ⟨[("n", .number n), ("x", .number x)]⟩
    d.get? "n" = some (.number n) ∧ d.get? "x" = some (.number x) ∧ x.toRat = n.toRat ∧
      d.ReadAs "n" n.toRat ∧ d.int32? "x" = d.int32? "n" ∧ d.integer? "x" = d.integer? "n" ∧
      d.flag "x" = d.flag "n" ∧ d.integer? "n" = some 0x7fffffffffffffff := by
  intro n x d
  have hn : d.get? "n" = some (.number n) := rfl
  have hx : d.get? "x" = some (.number x) := rfl
  have hvalue : x.toRat = n.toRat := by
    show Binary64.toRat ⟨false, 0x10000000000000, 11, by decide⟩ =
      ((0x8000000000000000 : Int) : Rat)
    exact Binary64.toRat_eq_intCast_iff.mpr ⟨by decide, by decide⟩
  rcases numbers_exact hn with ⟨hread, hsame⟩
  rcases hsame d "x" x hx hvalue with ⟨hint32, hinteger, hflag⟩
  refine ⟨hn, hx, hvalue, hread, hint32, hinteger, hflag, ?_⟩
  rw [hread.integer, show n.toRat = ((0x8000000000000000 : Int) : Rat) from rfl,
    Json.towardZero_intCast]
  rfl

end Document

end DocumentLink
