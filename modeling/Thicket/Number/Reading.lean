/-
  Numbers read from text.

  * A **count** is an optional plus sign and one or more ASCII digits, below `2 ^ 64`.
  * A **real** is an optional sign and either one of the words `inf`, `infinity`, `nan` (in any
    case) or decimal digits with at most one point, at least one digit, and an optional exponent;
    it is rounded once, from its exact decimal value.

  Nothing else is allowed around the digits: no blanks, no separators, no digits of other scripts.
  Every reader takes the whole text or refuses it.
-/
import Thicket.Number.Binary64

namespace Thicket

namespace Reading

/-! ## Digits -/

/-- The number that a run of ASCII digits spells. -/
def digitsValue (digits : List Char) : Nat :=
  digits.foldl (fun value digit => 10 * value + (digit.toNat - '0'.toNat)) 0

/-- The digits at the front of a text, and what follows them. -/
def splitDigits (text : List Char) : List Char × List Char :=
  (text.takeWhile Char.isDigit, text.dropWhile Char.isDigit)

/-- Splits off a leading sign; true means a minus. -/
def splitSign : List Char → Bool × List Char
  | '-' :: rest => (true, rest)
  | '+' :: rest => (false, rest)
  | text => (false, text)

/-! ## Counts -/

/-- Reads a count on characters. -/
def countOfChars? (text : List Char) : Option UInt64 :=
  let digits := match text with
    | '+' :: rest => rest
    | text => text
  if digits.isEmpty || !digits.all Char.isDigit then none
  else
    let value := digitsValue digits
    if value < 2 ^ 64 then some (UInt64.ofNat value) else none

/-- Reads a count: an optional plus sign and digits, below `2 ^ 64`. -/
def count? (text : String) : Option UInt64 := countOfChars? text.toList

/-! ## Reals -/

/-- Reads what may follow the digits of a real: nothing, or an exponent. -/
def exponent? : List Char → Option Int
  | [] => some 0
  | mark :: rest =>
    if mark = 'e' ∨ mark = 'E' then
      let (negative, digits) := splitSign rest
      if digits.isEmpty || !digits.all Char.isDigit then none
      else
        let value : Int := digitsValue digits
        some (if negative then -value else value)
    else none

/-- Reads a real without its sign. -/
def unsignedReal? (negative : Bool) (text : List Char) : Option Binary64 :=
  let word := String.ofList (text.map Char.toLower)
  if word = "inf" ∨ word = "infinity" then some (Binary64.infinity negative)
  else if word = "nan" then some Binary64.nan
  else
    let (whole, rest) := splitDigits text
    let (places, rest) := match rest with
      | '.' :: rest => splitDigits rest
      | rest => ([], rest)
    if whole.isEmpty && places.isEmpty then none
    else (exponent? rest).map fun power =>
      Binary64.ofDecimal negative (digitsValue (whole ++ places)) (power - places.length)

/-- Reads a real number, correctly rounded. -/
def real? (text : String) : Option Binary64 :=
  let (negative, rest) := splitSign text.toList
  unsignedReal? negative rest

/-! ## Small checks -/

example : count? "+5" = some 5 ∧ count? "" = none ∧ count? "+" = none ∧ count? "-1" = none := by
  decide +kernel
example : count? "18446744073709551615" = some 18446744073709551615 ∧
    count? "18446744073709551616" = none := by decide +kernel
example : real? ".5" = real? "5e-1" ∧ real? "." = none ∧ real? "1e" = none := by decide +kernel
example : real? "-Infinity" = some (Binary64.infinity true) ∧ real? "infinit" = none := by
  decide +kernel

end Reading

end Thicket
