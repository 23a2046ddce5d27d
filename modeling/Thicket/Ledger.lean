/-
  The ledger: one line for each tag of a file.

  Lines go to the disk through a buffer.  A line is put as four pieces: the file, a tab, the tag,
  a newline.  A piece that leaves room in the buffer is kept there; one that does not fit sends
  the buffer to the disk first; one as large as the whole buffer goes to the disk directly.  So
  what is on disk followed by what is in the buffer is always all that was put, in order.

  When the disk refuses, what could not be written stays in the buffer, and so do the pieces that
  were put before: a refused line is not counted, but it is not taken back either.
-/
import Thicket.Disk.Operations
import Thicket.Failure
import Thicket.Notice

namespace Thicket

/-- An open ledger. -/
structure Ledger where
  /-- The path it was opened by. -/
  path : String
  /-- Where its bytes go. -/
  sink : Disk.Sink
  /-- What is not on the disk yet. -/
  buffer : ByteArray
  /-- How many lines were put. -/
  entries : Nat

namespace Ledger

/-- How many bytes the buffer holds. -/
def capacity : Nat := 8192

/-! ## Opening -/

/-- What is reported when a ledger is about to be opened: a warning if there is something at the
    end of the path. -/
def openingNotices (disk : Disk) (path : String) : List Notice :=
  if disk.pathExists path then [.ledgerReplaced path] else []

/-- Opens an empty ledger; a file that is there already loses its content. -/
def create (disk : Disk) (path : String) : Except Failure (Ledger × Disk) :=
  match disk.openForWriting path with
  | .ok (sink, disk) => .ok ({ path, sink, buffer := .empty, entries := 0 }, disk)
  | .error cause => .error (.storage .createLedger path cause)

/-! ## Writing -/

/-- A step on a ledger and the disk it is on. -/
abbrev Writing := EStateM Cause (Ledger × Disk)

/-- Sends bytes to the disk, past the buffer. -/
def send (bytes : ByteArray) : Writing Unit := fun (ledger, disk) =>
  match disk.write ledger.sink bytes with
  | .ok (sink, disk) => .ok () ({ ledger with sink }, disk)
  | .error cause => .error cause (ledger, disk)

/-- Sends the buffer to the disk and empties it. -/
def flush : Writing Unit := do
  let (ledger, _) ← get
  if !ledger.buffer.isEmpty then
    send ledger.buffer
    modify fun (ledger, disk) => ({ ledger with buffer := .empty }, disk)

/-- Puts a piece into the buffer. -/
def keep (piece : ByteArray) : Writing Unit :=
  modify fun (ledger, disk) => ({ ledger with buffer := ledger.buffer ++ piece }, disk)

/-- Puts a piece, through the buffer or past it. -/
def put (piece : ByteArray) : Writing Unit := do
  let (ledger, _) ← get
  let room := capacity - ledger.buffer.size
  if piece.size < room then keep piece
  else do
    if room < piece.size then flush
    if capacity ≤ piece.size then send piece else keep piece

/-- Puts a line. -/
def putLine (file tag : String) : Writing Unit := do
  put file.toUTF8
  put "\t".toUTF8
  put tag.toUTF8
  put "\n".toUTF8
  modify fun (ledger, disk) => ({ ledger with entries := ledger.entries + 1 }, disk)

/-! ## The ledger's operations -/

/-- Adds a line for a tag of a file. -/
def append (ledger : Ledger) (disk : Disk) (file tag : String) :
    Except Failure Unit × Ledger × Disk :=
  match putLine file tag (ledger, disk) with
  | .ok () after => (.ok (), after)
  | .error cause after => (.error (.storage .writeLedger ledger.path cause), after)

/-- Closes the ledger.  The answer is the number of its lines, all of which are then on the disk. -/
def finish (ledger : Ledger) (disk : Disk) : Except Failure Nat × Disk :=
  match flush (ledger, disk) with
  | .ok () (_, disk) => (.ok ledger.entries, disk)
  | .error cause (_, disk) => (.error (.storage .flushLedger ledger.path cause), disk)

/-- Closes the ledger without asking whether its last lines reach the disk. -/
def abandon (ledger : Ledger) (disk : Disk) : Disk := (ledger.finish disk).2

/-- The ledger after something was removed from the disk: if its file is gone from the tree, what
    is still written to it goes nowhere. -/
def afterRemoval (ledger : Ledger) (disk : Disk) : Ledger :=
  match ledger.sink with
  | .file place _ =>
    match disk.get? place with
    | some (.file _) => ledger
    | _ => { ledger with sink := .lost }
  | _ => ledger

end Ledger

end Thicket
