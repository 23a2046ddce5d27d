/-
  The log.

  Every line of the log comes from some part of the program, and filters tell the parts apart by
  their names.  A line goes to a terminal, so what could steer that is written out.
-/
import Thicket.Notice
import Thicket.Text.Inert

namespace Thicket.Command

/-- The part of the program that a line comes from. -/
inductive Origin where
  /-- The run as a whole. -/
  | program
  /-- The listener that hears of seeds and warnings. -/
  | listener
  /-- The making of a fixture. -/
  | making
  /-- The growing of its tree. -/
  | growing
deriving DecidableEq, Repr

namespace Origin

/-- The name of a part, as filters write it; a part's name begins with that of the whole. -/
def name : Origin → String
  | program => "fixture_forge"
  | listener => "fixture_forge::report"
  | making => "fixture_forge::generator"
  | growing => "fixture_forge::generator::tree"

/-- Where the line of a report comes from. -/
def ofNotice : Notice → Origin
  | .seed _ => listener
  | .rootMissing _ => listener
  | .ledgerReplaced _ => listener
  | .generating _ => making
  | .filled .. => growing

end Origin

/-- A line of the log. -/
structure LogLine where
  origin : Origin
  level : Level
  text : String
deriving DecidableEq, Repr

namespace LogLine

/-- The line of a report. -/
def ofNotice (notice : Notice) : LogLine := ⟨.ofNotice notice, notice.level, notice.text⟩

/-- How a line is shown. -/
def render (line : LogLine) : String := line.level.label ++ " " ++ Inert.text line.text

end LogLine

end Thicket.Command
