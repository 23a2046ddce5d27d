/-
  Directives: which log lines to show.

      directive =  level
                |  [ target ] [ "[" [ span ] [ "{" field [ "=" value ] "}" ] "]" ] [ "=" [ level ] ]

  1. **Thresholds** — levels are written as words in any case, or as numbers from `0` for none to
     `5` for all.
  2. **Meaning** — a directive concerns the lines whose origin's name begins with its target, and,
     if it names a field, has that field.  Lines of this program stand in no span, and values of
     fields are only looked at in spans; so a directive that asks for either concerns no line.
  3. **Reading** — the parts are told apart in the directive without the blanks around it, but they
     are cut out of the directive as it is given.  So a blank behind a level makes it another
     word, and blanks in front shift every cut.
-/
import Thicket.Command.LogLine
import Thicket.Command.Pattern
import Thicket.Number.Reading
import Thicket.Text.Alphanumeric
import Thicket.Text.Blank

namespace Thicket.Command

/-! ## Thresholds -/

/-- The levels that are shown: those up to the given one, or none. -/
abbrev Threshold := Option Level

namespace Threshold

/-- A level that is shown under a threshold. -/
def shows (threshold : Threshold) (level : Level) : Bool :=
  match threshold with
  | none => false
  | some least => decide (level.rank ≤ least.rank)

/-- Everything is shown. -/
def all : Threshold := some .trace

/-- The threshold of a number. -/
def ofCount? (count : UInt64) : Option Threshold :=
  match count with
  | 0 => some none
  | 1 => some (some .error)
  | 2 => some (some .warn)
  | 3 => some (some .info)
  | 4 => some (some .debug)
  | 5 => some (some .trace)
  | _ => none

/-- The threshold of a word. -/
def ofWord? (word : String) : Option Threshold :=
  match String.ofList (word.toList.map Char.toLower) with
  | "off" => some none
  | "error" => some (some .error)
  | "warn" => some (some .warn)
  | "info" => some (some .info)
  | "debug" => some (some .debug)
  | "trace" => some (some .trace)
  | _ => none

/-- Reads a threshold: a number or a word. -/
def ofText? (text : String) : Option Threshold :=
  match Reading.count? text with
  | some count => ofCount? count
  | none => ofWord? text

end Threshold

/-! ## Meaning -/

/-- What is shown of some lines. -/
structure Directive where
  /-- What the names of their origins begin with. -/
  target : String
  /-- A field that they have. -/
  field : Option String
  /-- They stand in a span of some name, or in one where the field has some value. -/
  inSpan : Bool
  threshold : Threshold
deriving DecidableEq, Repr

namespace Directive

/-- The one field of every line: its text. -/
def lineField : String := "message"

/-- The directive concerns the lines of an origin. -/
def concerns (directive : Directive) (origin : Origin) : Bool :=
  !directive.inSpan && directive.target.toList.isPrefixOf origin.name.toList
    && directive.field.all (· == lineField)

/-- How closely a directive describes its lines: by the length of its target first, and then by
    whether it names a field. -/
def closeness (directive : Directive) : Nat :=
  2 * directive.target.utf8ByteSize + (if directive.field.isSome then 1 else 0)

/-- The directive that a level alone stands for. -/
def ofThreshold (threshold : Threshold) : Directive := ⟨"", none, false, threshold⟩

end Directive

/-! ## Reading -/

/-- A directive as it is given, and without the blanks around it. -/
structure Spelling where
  given : List Char
  bare : List Char

namespace Spelling

/-- The spelling of a directive. -/
def ofChars (text : List Char) : Spelling := ⟨text, Blank.strip text⟩

/-- What is given from one position to another. -/
def between (spelling : Spelling) (first last : Nat) : String :=
  String.ofList ((spelling.given.drop first).take (last - first))

/-- What is given from a position on. -/
def behind (spelling : Spelling) (first : Nat) : String :=
  String.ofList (spelling.given.drop first)

/-- Reads the level from a position on; no level is the highest. -/
def level? (spelling : Spelling) (first : Nat) : Option Threshold :=
  let text := spelling.behind first
  if text = "" then some Threshold.all else Threshold.ofText? text

/-- Reads what follows a bracket: nothing, or a level. -/
def ending? (spelling : Spelling) (first : Nat) : Option Threshold :=
  match spelling.bare.drop first with
  | [] => some Threshold.all
  | '=' :: _ => spelling.level? (first + 1)
  | _ => none

/-- Reads a field: its name, and whether a value is asked for, which is a number or a pattern. -/
def field? (text : String) : Option (String × Bool) :=
  let name := text.toList.takeWhile (· ≠ '=')
  match text.toList.dropWhile (· ≠ '=') with
  | [] => if text = "" then none else some (text, false)
  | _ :: rest =>
    let value := String.ofList (rest.takeWhile (· ≠ '='))
    if (Reading.real? value).isSome || Pattern.isWellFormed value then
      some (String.ofList name, true)
    else none

/-- Reads a directive from behind its opening brace on. -/
def braced? (spelling : Spelling) (target : String) (named : Bool) (first : Nat) :
    Option Directive :=
  let inside := spelling.bare.drop first
  let size := (inside.takeWhile (· ≠ '\x7d')).length
  match inside.drop size with
  | _ :: ']' :: _ => do
    let (name, valued) ← field? (spelling.between first (first + size))
    let threshold ← spelling.ending? (first + size + 2)
    pure ⟨target, some name, named || valued, threshold⟩
  | _ => none

/-- Reads a directive from behind its opening bracket on. -/
def bracketed? (spelling : Spelling) (target : String) (first : Nat) : Option Directive :=
  let inside := spelling.bare.drop first
  let size := (inside.takeWhile fun c => c ≠ ']' ∧ c ≠ '\x7b').length
  match inside.drop size with
  | [] => none
  | ']' :: _ =>
    (spelling.ending? (first + size + 1)).map fun threshold => ⟨target, none, true, threshold⟩
  | _ => spelling.braced? target (0 < size) (first + size + 1)

/-- A target may begin with the character. -/
def beginsTarget (c : Char) : Bool :=
  c = '-' ∨ c = ':' ∨ c = '_' ∨ Alphanumeric.contains c = true

/-- Reads a directive that begins with a level or a target. -/
def unbracketed? (spelling : Spelling) : Option Directive :=
  let size := (spelling.bare.takeWhile fun c => c ≠ '=' ∧ c ≠ '[').length
  let target := spelling.between 0 size
  match spelling.bare.drop size with
  | [] =>
    let text := spelling.behind 0
    match Threshold.ofText? text with
    | some threshold => some (.ofThreshold threshold)
    | none => some ⟨text, none, false, Threshold.all⟩
  | '=' :: _ =>
    (spelling.level? (size + 1)).map fun threshold => ⟨target, none, false, threshold⟩
  | _ => spelling.bracketed? target (size + 1)

end Spelling

/-- Reads a directive. -/
def Directive.ofChars? (text : List Char) : Option Directive :=
  let spelling := Spelling.ofChars text
  match spelling.bare with
  | [] => none
  | '[' :: _ => spelling.bracketed? "" 1
  | c :: _ => if Spelling.beginsTarget c then spelling.unbracketed? else none

/-! ## Small checks -/

example : Directive.ofChars? "DEBUG".toList = some (.ofThreshold (some .debug)) := by
  decide +kernel
example : Directive.ofChars? "a::b=04".toList = some ⟨"a::b", none, false, some .debug⟩ := by
  decide +kernel
example : Directive.ofChars? "a[\x7bmessage\x7d]=off".toList =
    some ⟨"a", some "message", false, none⟩ := by decide +kernel
example : Directive.ofChars? "[s]".toList = some ⟨"", none, true, some .trace⟩ := by decide +kernel
example : Directive.ofChars? " info".toList = some ⟨" info", none, false, some .trace⟩ := by
  decide +kernel
example : Directive.ofChars? "a=none".toList = none ∧ Directive.ofChars? " ".toList = none := by
  decide +kernel

end Thicket.Command
