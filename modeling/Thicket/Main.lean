/-
  The command line program.

  The run itself is a function on disks.  Here the part of the real disk that it can meet is read
  (the working directory, the root directory, and what is at the fixture's and the ledger's place),
  the run is done on that, and what it changed is written back.
-/
import Thicket.Command.Program
import Thicket.Disk.Changes

namespace Thicket.Command

/-- The place of an absolute path without links. -/
def placeOf (path : String) : Place := ((Path.split path).filter (· ≠ "")).reverse

/-- The path with all links resolved, if there is something at its end. -/
def realPath? (path : String) : IO (Option String) := do
  try
    let real ← IO.FS.realPath path
    pure (some real.toString)
  catch _ => pure none

/-- Adds what is at a path to a disk: a file with its content, or else a directory. -/
def readEntry (disk : Disk) (path : String) : IO Disk := do
  match ← realPath? path with
  | none => pure disk
  | some real =>
    match placeOf real with
    | [] => pure disk
    | name :: parent =>
      let disk := disk.withDirectories parent
      try
        let content ← IO.FS.readBinFile real
        pure (disk.add parent name (.file content))
      catch _ => pure (disk.add parent name .directory)

/-- The part of the real disk that an invocation can meet. -/
def readDisk (invocation : Invocation) : IO Disk := do
  let here ← IO.currentDir
  let home := placeOf here.toString
  let disk := { Disk.empty.withDirectories home with home }
  let root := invocation.settings.root
  let disk ← readEntry disk root
  let disk ← readEntry disk (Path.join root invocation.name)
  readEntry disk (Path.join root (invocation.name ++ Generator.ledgerSuffix))

/-- Writes changes to the real disk. -/
def writeChanges (changes : List (Place × Entry)) : IO Unit :=
  changes.forM fun (place, entry) =>
    match entry with
    | .directory => IO.FS.createDirAll (Path.ofPlace place)
    | .file content => IO.FS.writeBinFile (Path.ofPlace place) content
    | _ => pure ()

/-- What the program writes when it is asked for help. -/
def helpText : String :=
  let line := fun (_, letter, word) => "  -" ++ String.ofList [letter] ++ ", --" ++ word ++ "\n"
  "Generate a reproducible random directory tree of files, plus a ledger mapping each file to its "
    ++ "tags.\n\nOptions:\n" ++ String.join (Switch.all.map line)

/-- Shows what became of a run. -/
def showOutcome (outcome : Outcome) : IO UInt32 := do
  match outcome with
  | .refused .displayHelp => IO.print helpText
  | .refused .displayVersion => IO.print outcome.output
  | .refused _ => IO.eprintln "error: the arguments cannot be used; try --help"
  | .ended _ log => log.forM fun line => IO.eprintln line.render
  | .givenUp _ => IO.eprintln "error: the random source gives nothing that can be used"
  pure (UInt32.ofNat outcome.exitCode)

end Thicket.Command

open Thicket Thicket.Command

/-- Runs the program on the real disk. -/
def main (arguments : List String) : IO UInt32 := do
  let bytes ← IO.getRandomBytes 4
  let entropy := bytes.foldl (fun word byte => word * 256 + byte.toUInt32) 0
  let filter ← IO.getEnv "RUST_LOG"
  let disk ← match Invocation.ofArguments arguments with
    | .ok invocation => readDisk invocation
    | .error _ => pure Disk.empty
  let (outcome, after) := run disk arguments filter entropy
  writeChanges (after.changesSince disk)
  showOutcome outcome
