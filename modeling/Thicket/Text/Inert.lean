/-
  Text that cannot steer a terminal.

  A terminal takes some control characters as commands: escape, bell, backspace, form feed, delete,
  and all of U+0080 to U+009F.  In a text for a terminal these are written out, and everything else
  stands as it is, line ends and tabs included.
-/
namespace Thicket.Inert

/-- The code point in lowercase hexadecimal, with two digits at least. -/
def hex (c : Char) : List Char :=
  let digits := Nat.toDigits 16 c.toNat
  List.replicate (2 - digits.length) '0' ++ digits

/-- A terminal takes the ASCII character as a command. -/
def steers (c : Char) : Bool :=
  c = '\x1b' ∨ c = '\x07' ∨ c = '\x08' ∨ c = '\x0c' ∨ c = '\x7f'

/-- One character of a text for a terminal. -/
def escape (c : Char) : List Char :=
  if steers c then ['\\', 'x'] ++ hex c
  else if 0x80 ≤ c.toNat ∧ c.toNat ≤ 0x9f then ['\\', 'u', '\x7b'] ++ hex c ++ ['\x7d']
  else [c]

/-- The text for a terminal. -/
def text (s : String) : String := String.ofList (s.toList.flatMap escape)

/-! ## Small checks -/

example : text "a\x1b[31m\x08b" = "a\\x1b[31m\\x08b" := by decide +kernel
example : text "\u0085\u00a0\t\n" = "\\u\x7b85\x7d\u00a0\t\n" := by decide +kernel

end Thicket.Inert
