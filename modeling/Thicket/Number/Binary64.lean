/-
  Binary64 numbers, read exactly.

  A density is an IEEE 754 binary64 word.  Nothing here goes through machine arithmetic: every
  finite binary64 number is a whole multiple of `2 ^ -1074`, the least positive one, so a word is
  read as an integer count of that unit and two numbers are compared as integers.

  1. **Fields** — `negative`, `exponent`, `fraction`, taken from the word by division.
  2. **Value** — `magnitude` and `units` count units of `2 ^ -1074`.  An infinity gets the count
     that its fields spell, which is above the count of every finite number, so comparisons
     need no case for it; only a NaN is set apart.
  3. **Packing** — `nearest num den` is the word closest to `num / den` units, a tie going to the
     even word.  The exponent field needs no case split: adding the rounded significand to the
     shifted exponent carries into the exponent by itself.
  4. **Samples** — a number drawn from `[0, 1)` is a multiple of `2 ^ -52`, given by its
     numerator; `exceedsSample` compares a density with one.
-/

namespace Thicket

/-- Powers of numbers are core's own, also where a library brings powers in monoids. -/
@[default_instance 20000]
instance (priority := 20000) natPower : Pow Nat Nat := instPowNat

/-- An IEEE 754 binary64 number, as its 64-bit word. -/
structure Binary64 where
  bits : UInt64
deriving DecidableEq, Repr, Inhabited

namespace Binary64

/-! ## Fields -/

/-- The sign bit is set; true of `-0.0` and of some NaNs too. -/
def negative (x : Binary64) : Bool := decide (2 ^ 63 ≤ x.bits.toNat)

/-- The biased exponent, eleven bits. -/
def exponent (x : Binary64) : Nat := x.bits.toNat / 2 ^ 52 % 2 ^ 11

/-- The trailing significand, fifty-two bits. -/
def fraction (x : Binary64) : Nat := x.bits.toNat % 2 ^ 52

/-- All exponent bits are set and the fraction is not zero. -/
def isNaN (x : Binary64) : Bool := x.exponent == 2047 && x.fraction != 0

/-- All exponent bits are set and the fraction is zero. -/
def isInfinite (x : Binary64) : Bool := x.exponent == 2047 && x.fraction == 0

/-! ## Value -/

/-- The significand with its leading bit, which a subnormal number lacks. -/
def significand (x : Binary64) : Nat :=
  if x.exponent = 0 then x.fraction else 2 ^ 52 + x.fraction

/-- The significand counts `2 ^ scale` units; subnormal numbers and the least normal ones share
    scale zero. -/
def scale (x : Binary64) : Nat := x.exponent - 1

/-- The absolute value, in units of `2 ^ -1074`. -/
def magnitude (x : Binary64) : Nat := x.significand * 2 ^ x.scale

/-- The value, in units of `2 ^ -1074`; both zeros have the value zero. -/
def units (x : Binary64) : Int := if x.negative then -(x.magnitude : Int) else x.magnitude

/-- How many units make one. -/
def unitsPerOne : Nat := 2 ^ 1074

/-- The number lies in the closed interval from zero to one; a NaN does not. -/
def isProbability (x : Binary64) : Bool :=
  !x.isNaN && decide (0 ≤ x.units) && decide (x.units ≤ unitsPerOne)

/-- The first number is at least the second one; false if either is a NaN. -/
def atLeast (x y : Binary64) : Bool :=
  !x.isNaN && !y.isNaN && decide (y.units ≤ x.units)

/-! ## Packing -/

/-- The quotient rounded to the nearest integer, a half going to the even neighbour. -/
def roundHalfEven (num den : Nat) : Nat :=
  let quotient := num / den
  let rest := 2 * (num % den)
  if rest < den then quotient
  else if den < rest then quotient + 1
  else quotient + quotient % 2

/-- The word of positive infinity, as a number. -/
def infinityBits : Nat := 2047 * 2 ^ 52

/-- The bits, without sign, of the number closest to `num / den` units. -/
def nearestBits (num den : Nat) : Nat :=
  let scale := (num / den).log2 - 52
  min (scale * 2 ^ 52 + roundHalfEven num (den * 2 ^ scale)) infinityBits

/-- The number closest to `num / den` units, with the given sign. -/
def nearest (negative : Bool) (num den : Nat) : Binary64 :=
  ⟨UInt64.ofNat ((if negative then 2 ^ 63 else 0) + nearestBits num den)⟩

/-- Infinity with the given sign. -/
def infinity (negative : Bool) : Binary64 :=
  ⟨UInt64.ofNat ((if negative then 2 ^ 63 else 0) + infinityBits)⟩

/-- The usual quiet NaN. -/
def nan : Binary64 := ⟨0x7ff8000000000000⟩

/-- The number closest to `digits * 10 ^ power`.  Powers so far out that the answer is infinity or
    zero are settled by the digit count, before any large power is formed. -/
def ofDecimal (negative : Bool) (digits : Nat) (power : Int) : Binary64 :=
  let top : Int := power + (Nat.toDigits 10 digits).length
  if digits = 0 ∨ top < -330 then nearest negative 0 1
  else if 310 < top then infinity negative
  else if 0 ≤ power then nearest negative (digits * 10 ^ power.toNat * unitsPerOne) 1
  else nearest negative (digits * unitsPerOne) (10 ^ (-power).toNat)

/-! ## Samples from the unit interval -/

/-- A sample from `[0, 1)`: the numerator over `2 ^ 52`. -/
abbrev Sample := Fin (2 ^ 52)

/-- The sample's value in units of `2 ^ -1074`. -/
def Sample.units (k : Sample) : Nat := k.val * 2 ^ 1022

/-- The sample as a binary64 number; it is represented exactly. -/
def ofSample (k : Sample) : Binary64 := nearest false k.units 1

/-- The number is above the sample; false for a NaN. -/
def exceedsSample (x : Binary64) (k : Sample) : Bool :=
  !x.isNaN && decide ((k.units : Int) < x.units)

/-! ## Small checks -/

example : (ofDecimal false 3 (-1)).bits = 0x3fd3333333333333 := by decide +kernel
example : (ofDecimal false 1 0).units = unitsPerOne := by decide +kernel
example : (ofDecimal true 0 0).bits = 0x8000000000000000 := by decide +kernel
example : (ofDecimal false 5 (-324)).bits = 1 := by decide +kernel
example : (ofDecimal false 17976931348623159 292) = infinity false := by decide +kernel
example : (ofSample ⟨2 ^ 51, by decide⟩).bits = 0x3fe0000000000000 := by decide +kernel

end Binary64

end Thicket
