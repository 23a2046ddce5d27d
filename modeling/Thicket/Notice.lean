/-
  What a run reports while it goes on.

  Reports are values; who listens decides what becomes of them.  The command line writes them to its
  log, each at a level of its own.
-/
namespace Thicket

/-- How important a report is, most important first. -/
inductive Level where
  | error
  | warn
  | info
  | debug
  | trace
deriving DecidableEq, Repr

/-- The rank of a level; less is more important. -/
def Level.rank : Level → Nat
  | error => 1
  | warn => 2
  | info => 3
  | debug => 4
  | trace => 5

/-- How a level is written in a log. -/
def Level.label : Level → String
  | error => "ERROR"
  | warn => "WARN"
  | info => "INFO"
  | debug => "DEBUG"
  | trace => "TRACE"

/-- A report of a generator. -/
inductive Notice where
  /-- The seed that is used. -/
  | seed (value : UInt64)
  /-- The root directory is missing and is about to be made. -/
  | rootMissing (root : String)
  /-- A ledger is about to be opened where something is already. -/
  | ledgerReplaced (path : String)
  /-- A fixture is being made. -/
  | generating (target : String)
  /-- A directory is complete. -/
  | filled (path : String) (depth : Nat) (slots files : UInt64)
deriving DecidableEq, Repr

namespace Notice

/-- The seed that is reported, if that is what is reported. -/
def seed? : Notice → Option UInt64
  | seed value => some value
  | _ => none

/-- The warning, if it is one. -/
def warning? : Notice → Option String
  | rootMissing root =>
    some ("Test directory " ++ root ++ " does not exist. Creating one now.")
  | ledgerReplaced path =>
    some ("Tag file " ++ path ++ " already exists and will be overwritten")
  | _ => none

/-- The level of a report. -/
def level : Notice → Level
  | seed _ => .info
  | rootMissing _ => .warn
  | ledgerReplaced _ => .warn
  | generating _ => .debug
  | filled .. => .debug

/-- The text of a report in a log. -/
def text (notice : Notice) : String :=
  match notice with
  | seed value => "Seed: " ++ toString value.toNat
  | generating target => "Generating fixture " ++ target
  | filled path depth slots files =>
    path ++ ": depth " ++ toString depth ++ ", " ++ toString slots.toNat
      ++ " subdirectory slots, " ++ toString files.toNat ++ " files"
  | other => "WARNING: " ++ other.warning?.getD ""

end Notice

end Thicket
