/-
  What a caller is told when something cannot be done.

  A failure is a value that holds its cause; the wording is in one function per type, and so is
  the exit code.  There are three kinds: the fixture is already there, a setting or a name is
  refused, or the disk refuses an operation.
-/
import Thicket.Disk.Cause
import Thicket.Number.Shortest
import Thicket.Text.Quoted

namespace Thicket

/-- Why a setting, a fixture name or an alphabet is refused. -/
inductive Fault where
  /-- No directory could have a subdirectory. -/
  | noBranches
  /-- The tag density is no probability. -/
  | densityOutside (density : Binary64)
  /-- Files may have fewer tags than they must have. -/
  | tooFewTags (allowed needed : UInt64)
  /-- The root directory has no path. -/
  | emptyRoot
  /-- The fixture's name is no plain directory name. -/
  | nameNotPlain (name : String)
  /-- The alphabet has too few symbols. -/
  | fewSymbols (count : Nat)
  /-- The alphabet has a symbol that is no ASCII letter or digit. -/
  | strangeSymbol (symbol : Char)
  /-- The alphabet has a symbol twice. -/
  | repeatedSymbol
  /-- Identifiers would be too short to differ early. -/
  | shortIdentifiers (length : Nat)
deriving DecidableEq, Repr

/-- An operation on the disk, as messages name it. -/
inductive Task where
  | createTestRoot
  | resolveTestRoot
  | createFixtureDirectory
  | createLedger
  | writeLedger
  | flushLedger
  | createDirectory
  | createFile
deriving DecidableEq, Repr

/-- Why a fixture was not made. -/
inductive Failure where
  /-- Something is already at the fixture's path. -/
  | alreadyExists (path : String)
  /-- A setting or a name is refused. -/
  | invalid (fault : Fault)
  /-- The disk refused an operation. -/
  | storage (task : Task) (path : String) (cause : Cause)
deriving DecidableEq, Repr

/-! ## Wording -/

/-- Densities in messages are written out in full, and whole numbers without a point. -/
def densityInMessages : Layout := ⟨none, false⟩

namespace Fault

/-- The parameter that is at fault. -/
def parameter : Fault → String
  | noBranches => "branch_factor"
  | densityOutside _ => "tag_density"
  | tooFewTags _ _ => "max_tags"
  | emptyRoot => "root"
  | nameNotPlain _ => "name"
  | fewSymbols _ => "alphabet"
  | strangeSymbol _ => "alphabet"
  | repeatedSymbol => "alphabet"
  | shortIdentifiers _ => "min_length"

/-- What is wrong with it. -/
def reason : Fault → String
  | noBranches => "must be at least 1"
  | densityOutside density => "must lie in [0, 1], got " ++ densityInMessages.write density
  | tooFewTags allowed needed =>
    "is " ++ toString allowed.toNat ++ " but untagged files are disallowed, so at least "
      ++ toString needed.toNat ++ " tag is required"
  | emptyRoot => "must not be empty"
  | nameNotPlain name => Quoted.text name ++ " is not a plain directory name"
  | fewSymbols count => "needs at least 3 symbols, got " ++ toString count
  | strangeSymbol symbol =>
    "symbol " ++ Quoted.char symbol ++ " is not an ASCII letter or digit"
  | repeatedSymbol => "symbols must be distinct"
  | shortIdentifiers length => "must be at least 3, got " ++ toString length

end Fault

/-- The words for an operation. -/
def Task.words : Task → String
  | .createTestRoot => "create test root"
  | .resolveTestRoot => "resolve test root"
  | .createFixtureDirectory => "create fixture directory"
  | .createLedger => "create ledger"
  | .writeLedger => "write ledger"
  | .flushLedger => "flush ledger"
  | .createDirectory => "create directory"
  | .createFile => "create file"

namespace Failure

/-- The message of a failure. -/
def message : Failure → String
  | alreadyExists path => "fixture " ++ Quoted.text path ++ " already exists"
  | invalid fault => "invalid configuration for " ++ fault.parameter ++ ": " ++ fault.reason
  | storage task path cause =>
    "I/O failure on " ++ Quoted.text path ++ ": " ++ task.words ++ ": " ++ cause.message

/-- The message followed by those of its causes; a refusal of the disk is its own cause. -/
def messageWithCauses (failure : Failure) : String :=
  match failure with
  | storage _ _ cause => failure.message ++ ": " ++ cause.message
  | _ => failure.message

/-- The exit code of a program that ends with this failure. -/
def exitCode : Failure → Nat
  | storage .. => 1
  | invalid _ => 2
  | alreadyExists _ => 3

end Failure

/-! ## Small checks -/

example : (Failure.storage .createLedger "a.tag" .isDirectory).message =
    "I/O failure on \"a.tag\": create ledger: Is a directory (os error 21)" := by decide +kernel
example : (Failure.invalid (.densityOutside (Binary64.ofDecimal false 2 0))).message =
    "invalid configuration for tag_density: must lie in [0, 1], got 2" := by decide +kernel

end Thicket
