/-
  Codecs with a random alphabet.
-/
import Thicket.Codec.Encode
import Thicket.Random.Draw

namespace Thicket

namespace Codec

/-- The letters and digits that identifiers are made of. -/
def letters : String := "abcdefghijklmnopqrstuvwxyzABCDEFGHIJKLMNOPQRSTUVWXYZ0123456789"

/-- The length that the identifiers of a fixture have at least. -/
def fixtureLength : Nat := 8

/-- A codec whose alphabet is all letters and digits in a random order.  The order is drawn before
    the length is looked at. -/
def shuffled {σ : Type} [WordSource σ] (patience minLength : Nat) :
    Draw σ (Except Fault Codec) := do
  let symbols ← Draw.shuffle patience letters.toList.toArray
  pure (ofSymbols? symbols minLength)

end Codec

end Thicket
