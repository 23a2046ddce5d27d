/-
  Which log lines are shown.

  A filter is a list of directives, separated by commas.  Of the directives that concern a line the
  one that describes it most closely decides, of equal ones the last.  A filter without directives
  shows nothing.
-/
import Thicket.Command.Directive

namespace Thicket.Command

/-- A filter: its directives. -/
abbrev LogFilter := List Directive

namespace LogFilter

/-- The texts between the commas. -/
def splitAtCommas : List Char → List (List Char)
  | [] => [[]]
  | c :: rest =>
    if c = ',' then [] :: splitAtCommas rest
    else
      match splitAtCommas rest with
      | piece :: pieces => (c :: piece) :: pieces
      | [] => [[c]]

/-- Reads a filter; none if one of its directives cannot be read. -/
def ofText? (text : String) : Option LogFilter :=
  ((splitAtCommas text.toList).filter (!·.isEmpty)).mapM Directive.ofChars?

/-- The filter that shows levels up to the given one. -/
def upTo (level : Level) : LogFilter := [.ofThreshold (some level)]

/-- Of two directives the one that decides. -/
def prefer (best : Option Directive) (next : Directive) : Option Directive :=
  match best with
  | some directive => if next.closeness < directive.closeness then best else some next
  | none => some next

/-- The filter shows lines of an origin and a level. -/
def shows (filter : LogFilter) (origin : Origin) (level : Level) : Bool :=
  match (filter.filter (·.concerns origin)).foldl prefer none with
  | some directive => directive.threshold.shows level
  | none => false

/-- The filter in force: the one asked for, if it can be read; otherwise levels up to information,
    or only up to warnings for a quiet run. -/
def inForce (asked : Option String) (quiet : Bool) : LogFilter :=
  (asked.bind ofText?).getD (upTo (if quiet then .warn else .info))

/-- The lines that a filter shows. -/
def apply (filter : LogFilter) (log : List LogLine) : List LogLine :=
  log.filter fun line => filter.shows line.origin line.level

end LogFilter

/-! ## Small checks -/

example : (LogFilter.inForce (some "") false).shows .program .error = false := by decide +kernel
example : (LogFilter.inForce (some "DEBUG") true).shows .growing .debug = true := by decide +kernel
example : (LogFilter.inForce (some "other=debug") false).shows .program .error = false := by
  decide +kernel
example : (LogFilter.inForce (some "info,fixture_forge::report=warn") false).shows .listener .info =
    false := by decide +kernel
example : (LogFilter.inForce none true).shows .program .info = false := by decide +kernel

end Thicket.Command
