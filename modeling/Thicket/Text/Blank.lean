/-
  Blanks.

  The characters that Unicode calls white space: the ASCII blanks and line ends, and the spaces and
  separators of other scripts.
-/
namespace Thicket.Blank

/-- The code points of blanks, as ranges. -/
def ranges : List (Nat × Nat) := [
  (0x9, 0xd), (0x20, 0x20), (0x85, 0x85), (0xa0, 0xa0), (0x1680, 0x1680), (0x2000, 0x200a),
  (0x2028, 0x2029), (0x202f, 0x202f), (0x205f, 0x205f), (0x3000, 0x3000)]

/-- The character is a blank. -/
def contains (c : Char) : Bool :=
  ranges.any fun (first, last) => decide (first ≤ c.toNat) && decide (c.toNat ≤ last)

/-- The text without the blanks around it. -/
def strip (text : List Char) : List Char :=
  ((text.dropWhile contains).reverse.dropWhile contains).reverse

/-! ## Small checks -/

example : strip " \ta b\u00a0\n".toList = "a b".toList := by decide +kernel

end Thicket.Blank
