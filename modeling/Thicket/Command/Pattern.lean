/-
  Patterns.

  A pattern is a regular expression.  Nothing is ever matched against one here, but a text that is
  none has to be told apart:

      pattern  =  sequence { "|" sequence }
      sequence =  { piece { "*" | "+" | "?" } }
      piece    =  character  |  "\" character  |  class  |  "(" [ "?:" ] pattern ")"
      class    =  "[" [ "^" ] [ "]" ] { character | "\" character | class } "]"

  A brace stands for no character, since counted repetitions cannot be closed where patterns occur.
-/
namespace Thicket.Command.Pattern

/-- What is open at some point of a pattern. -/
structure Open where
  /-- How many groups are open. -/
  groups : Nat
  /-- How many classes are open, one in the other. -/
  classes : Nat
  /-- There is a piece right before that may be repeated. -/
  repeatable : Bool
deriving DecidableEq, Repr

/-- The rest of a text completes a pattern of which so much is open. -/
def completes (state : Open) : List Char → Bool
  | [] => state.groups == 0 && state.classes == 0
  | '\\' :: rest =>
    match rest with
    | [] => false
    | _ :: rest => completes { state with repeatable := true } rest
  | '[' :: '^' :: ']' :: rest => completes { state with classes := state.classes + 1 } rest
  | '[' :: ']' :: rest => completes { state with classes := state.classes + 1 } rest
  | '[' :: rest => completes { state with classes := state.classes + 1 } rest
  | '(' :: '?' :: ':' :: rest =>
    if 0 < state.classes then completes state rest
    else completes { state with groups := state.groups + 1, repeatable := false } rest
  | c :: rest =>
    if 0 < state.classes then
      let classes := if c = ']' then state.classes - 1 else state.classes
      completes { state with classes, repeatable := true } rest
    else
      match c with
      | '(' => completes { state with groups := state.groups + 1, repeatable := false } rest
      | ')' =>
        state.groups != 0
          && completes { state with groups := state.groups - 1, repeatable := true } rest
      | '|' => completes { state with repeatable := false } rest
      | '*' => state.repeatable && completes state rest
      | '+' => state.repeatable && completes state rest
      | '?' => state.repeatable && completes state rest
      | '\x7b' => false
      | _ => completes { state with repeatable := true } rest

/-- The text is a pattern. -/
def isWellFormed (text : String) : Bool := completes ⟨0, 0, false⟩ text.toList

/-! ## Small checks -/

example : isWellFormed "" ∧ isWellFormed "a.*(b|[^]*])?" ∧ isWellFormed "(?:x)+\\(" := by
  decide +kernel
example : ¬ isWellFormed "*" ∧ ¬ isWellFormed "(" ∧ ¬ isWellFormed "[]" ∧ ¬ isWellFormed "a|+" := by
  decide +kernel

end Thicket.Command.Pattern
