/-
  Quoted text for messages.

  A path or a name in a message stands between quotes and is made readable: the quote in use, the
  backslash and the common control characters get a backslash form, and every character that
  has no picture of its own is written as its code point in braces.  Everything else stands as it
  is.  A text is quoted with double quotes, a single character with single quotes, and each leaves
  the other quote alone.
-/
import Thicket.Text.Unprintable

namespace Thicket.Quoted

/-- The code point in lowercase hexadecimal, in braces behind `\u`. -/
def codePoint (c : Char) : List Char :=
  ['\\', 'u', '\x7b'] ++ Nat.toDigits 16 c.toNat ++ ['\x7d']

/-- One character as it stands between the given quotes. -/
def escape (quote c : Char) : List Char :=
  if c = '\x00' then ['\\', '0']
  else if c = '\t' then ['\\', 't']
  else if c = '\r' then ['\\', 'r']
  else if c = '\n' then ['\\', 'n']
  else if c = '\\' ∨ c = quote then ['\\', c]
  else if Unprintable.contains c then codePoint c
  else [c]

/-- The text between double quotes. -/
def text (s : String) : String :=
  String.ofList ('"' :: s.toList.flatMap (escape '"') ++ ['"'])

/-- The character between single quotes. -/
def char (c : Char) : String :=
  String.ofList ('\'' :: escape '\'' c ++ ['\''])

/-! ## Small checks -/

example : text "it's \"x\"\n" = "\"it's \\\"x\\\"\\n\"" := by decide +kernel
example : text "\u0301/" = "\"\\u\x7b301\x7d/\"" := by decide +kernel
example : char '\'' = "'\\''" ∧ char '"' = "'\"'" := by decide +kernel

end Thicket.Quoted
