/-
  Decimal text of a binary64 number.

  1. **Digits** — `shortest x` is the decimal with the fewest digits among those that read back as
     `x`, and of these the one nearest to `x` (of two equally near, the upper one).  A decimal reads
     back as `x` when it lies between the midpoints towards the two neighbours of `x`; the midpoints
     count when the significand is even.  For one digit, two digits and so on, only the two points
     of the decimal grid around `x` have to be tried: if any point of a grid lies in the interval,
     one of these two does.  Seventeen digits always suffice.
  2. **Layout** — where positional notation ends and whether a whole number keeps a `.0` is the
     writer's choice, one `Layout` value per format.
-/
import Thicket.Number.Binary64

namespace Thicket

/-- The number `digits * 10 ^ power`. -/
structure Decimal where
  digits : Nat
  power : Int
deriving DecidableEq, Repr

namespace Decimal

/-! ## The decimal grid around a number -/

/-- How many decimal digits a number has; one for zero. -/
def length (n : Nat) : Nat := (Nat.toDigits 10 n).length

/-- The power of ten at or below the positive quotient `num / den`. -/
def leadingPower (num den : Nat) : Int :=
  if den ≤ num then (length (num / den) : Int) - 1
  else -(length ((den - 1) / num) : Int)

/-- The point of the grid of spacing `10 ^ power` that reads back as `x` and is nearest to it, if
    there is one.  All quantities are counted in quarters of a unit, and the whole comparison is
    scaled up when the spacing is below one. -/
def gridPoint? (x : Binary64) (power : Int) : Option Decimal :=
  let up := 10 ^ (-power).toNat
  let step := 10 ^ power.toNat * (4 * Binary64.unitsPerOne)
  let value := 4 * x.magnitude * up
  let above := 2 * 2 ^ x.scale * up
  let below := if x.fraction = 0 ∧ 1 < x.exponent then 2 ^ x.scale * up else above
  let floor := value / step
  let rest := value % step
  let closed := x.significand % 2 == 0
  let lower := decide (rest < below) || (closed && rest == below)
  let upper := decide (step - rest < above) || (closed && step - rest == above)
  if lower && (!upper || decide (2 * rest < step)) then some ⟨floor, power⟩
  else if upper then some ⟨floor + 1, power⟩
  else none

/-- The same number without trailing zeros among its digits; the fuel bounds how many are taken
    off. -/
def dropZeros : Nat → Decimal → Decimal
  | fuel + 1, ⟨digits, power⟩ =>
    if digits ≠ 0 ∧ digits % 10 = 0 then dropZeros fuel ⟨digits / 10, power + 1⟩
    else ⟨digits, power⟩
  | 0, number => number

/-- The shortest decimal that reads back as the absolute value of a finite number, the nearest one
    of that length. -/
def shortest (x : Binary64) : Decimal :=
  if x.magnitude = 0 then ⟨0, 0⟩
  else
    let leading := leadingPower x.magnitude Binary64.unitsPerOne
    let found := (List.range 17).findSome? fun (extra : Nat) =>
      gridPoint? x (leading - (extra : Int))
    dropZeros 20 (found.getD ⟨0, 0⟩)

end Decimal

/-! ## Layout -/

/-- How a format writes a number. -/
structure Layout where
  /-- The least and the greatest power of ten that is written positionally; none when every number
      is. -/
  positional : Option (Int × Int)
  /-- A positional number that is whole ends in `.0`. -/
  alwaysPoint : Bool

namespace Layout

/-- A run of zeros. -/
def zeros (count : Nat) : String := String.ofList (List.replicate count '0')

/-- Positional notation. -/
def writePositional (layout : Layout) (number : Decimal) : String :=
  let digits := Nat.toDigits 10 number.digits
  let point : Int := digits.length + number.power
  let text := String.ofList digits
  if point ≤ 0 then "0." ++ zeros (-point).toNat ++ text
  else if (digits.length : Int) ≤ point then
    text ++ zeros (point.toNat - digits.length) ++ (if layout.alwaysPoint then ".0" else "")
  else String.ofList (digits.take point.toNat) ++ "." ++ String.ofList (digits.drop point.toNat)

/-- One digit before the point, and the power of ten behind an `e`. -/
def writeScientific (number : Decimal) : String :=
  let digits := Nat.toDigits 10 number.digits
  let power : Int := digits.length + number.power - 1
  let tail := digits.drop 1
  String.ofList (digits.take 1) ++ (if tail.isEmpty then "" else "." ++ String.ofList tail)
    ++ "e" ++ (if power < 0 then "-" else "") ++ String.ofList (Nat.toDigits 10 power.natAbs)

/-- Writes a number without its sign. -/
def writeMagnitude (layout : Layout) (x : Binary64) : String :=
  let number := Decimal.shortest x
  let leading : Int := (Nat.toDigits 10 number.digits).length + number.power - 1
  match layout.positional with
  | none => layout.writePositional number
  | some (least, greatest) =>
    if number.digits = 0 ∨ (least ≤ leading ∧ leading ≤ greatest) then
      layout.writePositional number
    else writeScientific number

/-- Writes a number; a NaN has no sign, and a negative zero keeps its own. -/
def write (layout : Layout) (x : Binary64) : String :=
  if x.isNaN then "NaN"
  else
    (if x.negative then "-" else "") ++
      (if x.isInfinite then "inf" else layout.writeMagnitude x)

end Layout

/-! ## Small checks -/

example : Decimal.shortest (Binary64.ofDecimal false 1 (-1)) = ⟨1, -1⟩ := by decide +kernel
example : Decimal.shortest ⟨1⟩ = ⟨5, -324⟩ := by decide +kernel
example : Decimal.shortest ⟨0x7fefffffffffffff⟩ = ⟨17976931348623157, 292⟩ := by decide +kernel
example : Decimal.shortest (Binary64.ofDecimal false 1 23) = ⟨1, 23⟩ := by decide +kernel
example : (⟨none, false⟩ : Layout).write (Binary64.ofDecimal true 15 (-1)) = "-1.5" := by
  decide +kernel
example : (⟨some (-4, 15), true⟩ : Layout).write (Binary64.ofDecimal false 25 (-6)) = "2.5e-5" := by
  decide +kernel

end Thicket
