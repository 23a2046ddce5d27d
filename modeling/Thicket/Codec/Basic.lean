/-
  The alphabet of a codec, and the alphabet as one counter sees it.

  A codec writes counters as short identifiers over an alphabet of distinct ASCII letters and
  digits.  Every counter has a turn: the alphabet is turned left by that many places and reversed.
  In the turned alphabet

      end symbol, digit 0, digit 1, …, last digit

  the first symbol ends a number, the others are its digits, and the last of them, which is the
  alphabet's symbol at the turn itself, leads the identifier and so gives the turn away.
-/
import Thicket.Failure

namespace Thicket

/-- An alphabet of identifiers, and the length they are filled up to. -/
structure Codec where
  size : Nat
  symbols : Vector Char size
  minLength : Nat
  three_le_size : 3 ≤ size
  alphanumeric : ∀ c ∈ symbols, c.isAlphanum = true
  distinct : symbols.toList.Nodup
  three_le_minLength : 3 ≤ minLength

namespace Codec

/-! ## Making a codec -/

/-- Checks an alphabet and a length: at least three symbols, each an ASCII letter or digit, none of
    them twice, and identifiers of at least three symbols. -/
def ofSymbols? (symbols : Array Char) (minLength : Nat) : Except Fault Codec :=
  if hsize : 3 ≤ symbols.size then
    match hstrange : symbols.find? (fun c => !c.isAlphanum) with
    | some c => .error (.strangeSymbol c)
    | none =>
      if hdistinct : symbols.toList.Nodup then
        if hlength : 3 ≤ minLength then
          .ok {
            size := symbols.size
            symbols := symbols.toVector
            minLength
            three_le_size := hsize
            alphanumeric := by
              intro c hc
              have hmem : c ∈ symbols := by simpa [Array.toVector] using hc
              simpa using Array.find?_eq_none.1 hstrange c hmem
            distinct := hdistinct
            three_le_minLength := hlength }
        else .error (.shortIdentifiers minLength)
      else .error .repeatedSymbol
  else .error (.fewSymbols symbols.size)

/-- The alphabet as text. -/
def alphabet (codec : Codec) : String := String.ofList codec.symbols.toList

theorem size_pos (codec : Codec) : 0 < codec.size := by
  have := codec.three_le_size
  omega

/-- The base in which counters are written: all symbols but the end symbol are digits. -/
def base (codec : Codec) : Nat := codec.size - 1

theorem two_le_base (codec : Codec) : 2 ≤ codec.base := by
  have := codec.three_le_size
  unfold base
  omega

/-! ## The alphabet as one counter sees it -/

/-- The symbol at a place of the alphabet, counted around. -/
def symbolAt (codec : Codec) (place : Nat) : Char :=
  have h : place % codec.size < codec.size := Nat.mod_lt _ codec.size_pos
  codec.symbols[place % codec.size]

/-- The turn of a counter: its remainder by the alphabet's size, moved on by the code of the symbol
    at that place. -/
def turn (codec : Codec) (counter : Nat) : Nat :=
  ((codec.symbolAt counter).toNat % codec.size + counter % codec.size) % codec.size

/-- The alphabet turned left by so many places, then reversed. -/
def turned (codec : Codec) (turn : Nat) : Vector Char codec.size :=
  Vector.ofFn fun place => codec.symbolAt (turn + (codec.size - 1 - place.val))

/-- The symbol that ends a number. -/
def endSymbol (codec : Codec) (turn : Nat) : Char :=
  have h := codec.size_pos
  (codec.turned turn)[0]

/-- The symbol for a digit. -/
def digit (codec : Codec) (turn : Nat) (d : Fin codec.base) : Char :=
  have h : 1 + d.val < codec.size := by
    have := d.isLt
    have := codec.three_le_size
    unfold base at *
    omega
  (codec.turned turn)[1 + d.val]

/-- The symbols of the digits, in order. -/
def digits (codec : Codec) (turn : Nat) : List Char := (codec.turned turn).toList.drop 1

/-- The symbol that leads an identifier: the last of the turned alphabet. -/
def lead (codec : Codec) (turn : Nat) : Char :=
  have h : codec.size - 1 < codec.size := by
    have := codec.size_pos
    omega
  (codec.turned turn)[codec.size - 1]

/-- The leading symbol is the alphabet's own at the turn. -/
theorem lead_eq_symbolAt (codec : Codec) (turn : Nat) :
    codec.lead turn = codec.symbolAt turn := by
  simp [lead, turned]

end Codec

end Thicket
