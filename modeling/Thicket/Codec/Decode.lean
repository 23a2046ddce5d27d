/-
  Reading identifiers.

  The lead gives the turn, and with it the turned alphabet; the numeral ends at the first end
  symbol.  Filler carries no information, so the number that is read is only an answer if writing it
  gives the very text that was read.
-/
import Thicket.Codec.Encode

namespace Thicket

namespace Codec

/-- The number that digits spell, lowest first; none if a symbol is no digit. -/
def numeralValue? (digits : List Char) (base : Nat) : List Char → Option Nat
  | [] => some 0
  | symbol :: rest => do
    let value ← numeralValue? digits base rest
    let digit ← digits.idxOf? symbol
    pure (value * base + digit)

/-- The number that a text spells as an identifier, whatever its filler. -/
def spelled? (codec : Codec) : List Char → Option Nat
  | [] => none
  | lead :: rest => do
    let turn ← codec.symbols.toList.idxOf? lead
    let numeral := rest.takeWhile (· ≠ codec.endSymbol turn)
    if numeral.isEmpty then none
    else numeralValue? (codec.digits turn) codec.base numeral

/-- The counter whose identifier is the text; none if there is no such counter. -/
def decode (codec : Codec) (id : String) : Option UInt64 := do
  let value ← codec.spelled? id.toList
  if value < 2 ^ 64 ∧ codec.encode (UInt64.ofNat value) = id then pure (UInt64.ofNat value)
  else none

/-! ## Small checks -/

example : ((ofSymbols? #['a', 'b', 'c'] 3).toOption.map fun codec =>
    [codec.encode 0, codec.encode 1, codec.encode 3, codec.encode 5]) =
      some ["bca", "aac", "bbb", "ccac"] := by decide +kernel
example : ((ofSymbols? #['a', 'b', 'c'] 3).toOption.map fun codec =>
    [codec.decode "ccac", codec.decode "bcb", codec.decode "", codec.decode "b"]) =
      some [some 5, none, none, none] := by decide +kernel

end Codec

end Thicket
