/-
  A run of the whole program.

  Arguments, disk, log filter and a word of entropy go in; the outcome and the disk come out.  The
  outcome of a run that begins is its exit code and the lines of its log.  What is logged has no
  bearing on anything else.
-/
import Thicket.Command.Arguments
import Thicket.Command.LogFilter
import Thicket.Generator

namespace Thicket.Command

/-- What becomes of a run. -/
inductive Outcome where
  /-- The arguments do not lead to a run. -/
  | refused (refusal : Refusal)
  /-- The run ended, with an exit code and a log. -/
  | ended (code : Nat) (log : List LogLine)
  /-- The random source did not give what was needed. -/
  | givenUp (mishap : Mishap)
deriving DecidableEq, Repr

/-- What the program writes when it is asked for its version. -/
def versionText : String := "fixture-forge 0.1.0\n"

/-- What goes to standard output; the help text is left to the command line. -/
def Outcome.output : Outcome → String
  | .refused .displayVersion => versionText
  | _ => ""

/-- The exit code. -/
def Outcome.exitCode : Outcome → Nat
  | .refused refusal => refusal.exitCode
  | .ended code _ => code
  | .givenUp _ => 1

/-! ## Log lines -/

/-- The line of a failure, with what was being done if that is to be told. -/
def failureLine (context : String) (failure : Failure) : LogLine :=
  ⟨.program, .error, "ERROR: " ++ context ++ failure.messageWithCauses⟩

/-- What was being done while a fixture was made. -/
def makingContext (name : String) : String := "could not generate fixture '" ++ name ++ "': "

/-- The lines that sum a run up. -/
def summaryLines (summary : Summary) : List LogLine := [
  ⟨.program, .info, "Fixture: " ++ summary.target⟩,
  ⟨.program, .info, "Ledger: " ++ summary.ledger⟩,
  ⟨.program, .info, "Generated " ++ toString summary.directories ++ " directories and "
    ++ toString summary.files ++ " files (" ++ toString summary.payloadBytes ++ " bytes); "
    ++ toString summary.ledgerEntries ++ " tag entries over "
    ++ toString summary.distinctTags ++ " distinct tags"⟩]

/-! ## Runs -/

/-- How a run stands when it ends early. -/
def stopped (context : String) (stop : Stop) (notices : Array Notice) : Outcome :=
  match stop with
  | .mishap mishap => .givenUp mishap
  | .failed failure =>
    .ended failure.exitCode (notices.toList.map LogLine.ofNotice ++ [failureLine context failure])

/-- What an invocation asks for, done on a disk: the outcome with all lines of the log. -/
def carryOut {σ : Type} [WordSource σ] (invocation : Invocation) (seed : UInt64)
    (world : World σ) : Outcome × Disk :=
  match Generator.create invocation.settings seed Generator.defaultPatience world with
  | .error stop world => (stopped "" stop world.notices, world.disk)
  | .ok generator world =>
    match generator.generate invocation.name world with
    | .error stop world =>
      (stopped (makingContext invocation.name) stop world.notices, world.disk)
    | .ok summary world =>
      (.ended 0 (world.notices.toList.map LogLine.ofNotice ++ summaryLines summary), world.disk)

/-- Leaves only the lines that a filter shows. -/
def Outcome.filtered (filter : LogFilter) : Outcome → Outcome
  | .ended code log => .ended code (filter.apply log)
  | outcome => outcome

/-- Runs the program.  `logFilter` is the filter that is asked for, if any; the entropy is the seed
    of a run that is given none. -/
def run (disk : Disk) (arguments : List String) (logFilter : Option String) (entropy : UInt32) :
    Outcome × Disk :=
  match Invocation.ofArguments arguments with
  | .error refusal => (.refused refusal, disk)
  | .ok invocation =>
    let seed := invocation.settings.seed.getD entropy.toUInt64
    let (outcome, disk) := carryOut invocation seed ⟨KeyStream.ofSeed seed, disk, #[]⟩
    (outcome.filtered (LogFilter.inForce logFilter invocation.quiet), disk)

end Thicket.Command
