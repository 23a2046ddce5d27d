/-
  Sessions: what can be asked of a disk, an open ledger or a generator in the course of time.

  1. **Requests to a disk** — the plain operations by path, each with its reply.
  2. **A desk** — a disk with at most one open ledger.  Opening another ledger closes the one
     before, but only when it succeeds; when what a ledger is written to is removed, it goes on
     without.
  3. **A workshop** — a disk with at most one generator and the state of its random source.  A new
     generator starts a new source; one that cannot be made leaves the old one in place.
-/
import Thicket.Description
import Thicket.Disk.Listing

namespace Thicket

/-! ## Requests to a disk -/

/-- A plain operation on a disk. -/
inductive DiskRequest where
  | makeDirectories (path : String)
  | writeText (path text : String)
  | removeAll (path : String)
  | makeLink (path target : String)
  | readText (path : String)
  | list
deriving DecidableEq, Repr

/-- The reply to a plain operation. -/
inductive DiskReply where
  | done
  | text (text : String)
  | listing (lines : List String)
  | refused (cause : Cause)
deriving DecidableEq, Repr

namespace DiskReply

/-- The reply to an operation that only succeeds or fails. -/
def ofOutcome : Except Cause Unit → DiskReply
  | .ok () => done
  | .error cause => refused cause

end DiskReply

/-- Answers a request. -/
def Disk.answer (disk : Disk) : DiskRequest → DiskReply × Disk
  | .makeDirectories path =>
    let (outcome, disk) := disk.makeDirectories path
    (.ofOutcome outcome, disk)
  | .writeText path text =>
    let (outcome, disk) := disk.writeText path text
    (.ofOutcome outcome, disk)
  | .removeAll path =>
    let (outcome, disk) := disk.removeAll path
    (.ofOutcome outcome, disk)
  | .makeLink path target =>
    match disk.makeLink path target with
    | .ok disk => (.done, disk)
    | .error cause => (.refused cause, disk)
  | .readText path =>
    match disk.readText path with
    | .ok text => (.text text, disk)
    | .error cause => (.refused cause, disk)
  | .list => (.listing (disk.listing (Path.ofPlace disk.home)), disk)

/-! ## A desk with a ledger -/

/-- A disk and the ledger that is open on it, if any. -/
structure Desk where
  disk : Disk
  ledger : Option Ledger

namespace Desk

/-- Answers a request to the disk. -/
def answer (desk : Desk) (request : DiskRequest) : DiskReply × Desk :=
  let (reply, disk) := desk.disk.answer request
  (reply, ⟨disk, desk.ledger.map fun ledger => ledger.afterRemoval disk⟩)

/-- Closes the open ledger, if any; true if there was one. -/
def drop (desk : Desk) : Bool × Desk :=
  match desk.ledger with
  | none => (false, desk)
  | some ledger => (true, ⟨ledger.abandon desk.disk, none⟩)

/-- Opens a ledger, and then closes the one that was open. -/
def create (desk : Desk) (path : String) : List Notice × Except Failure Unit × Desk :=
  let notices := Ledger.openingNotices desk.disk path
  match Ledger.create desk.disk path with
  | .error failure => (notices, .error failure, desk)
  | .ok (ledger, disk) =>
    let (_, closed) := drop ⟨disk, desk.ledger⟩
    (notices, .ok (), ⟨closed.disk, some ledger⟩)

/-- Adds a line to the open ledger; none if there is no open one. -/
def append? (desk : Desk) (file tag : String) : Option (Except Failure Unit × Desk) :=
  desk.ledger.map fun ledger =>
    let (outcome, ledger, disk) := ledger.append desk.disk file tag
    (outcome, ⟨disk, some ledger⟩)

/-- Closes the open ledger and counts its lines; none if there is no open one. -/
def finish? (desk : Desk) : Option (Except Failure Nat × Desk) :=
  desk.ledger.map fun ledger =>
    let (outcome, disk) := ledger.finish desk.disk
    (outcome, ⟨disk, none⟩)

end Desk

/-! ## A workshop with a generator -/

/-- A disk, and the generator that works on it, if any, with its random source. -/
structure Workshop where
  disk : Disk
  generator : Option (Generator × KeyStream)

namespace Workshop

/-- Answers a request to the disk. -/
def answer (shop : Workshop) (request : DiskRequest) : DiskReply × Workshop :=
  let (reply, disk) := shop.disk.answer request
  (reply, { shop with disk })

/-- Makes a new generator.  The entropy is its seed if the settings have none. -/
def create (shop : Workshop) (settings : Settings) (entropy : UInt32) :
    Array Notice × Except Stop UInt64 × Workshop :=
  let seed := settings.seed.getD entropy.toUInt64
  match Generator.create settings seed Generator.defaultPatience
      ⟨KeyStream.ofSeed seed, shop.disk, #[]⟩ with
  | .ok generator world =>
    (world.notices, .ok generator.seed, { shop with generator := some (generator, world.source) })
  | .error stop world => (world.notices, .error stop, shop)

/-- Makes a fixture; none if there is no generator. -/
def generate? (shop : Workshop) (name : String) :
    Option (Array Notice × Except Stop Summary × Workshop) :=
  shop.generator.map fun (generator, source) =>
    match generator.generate name ⟨source, shop.disk, #[]⟩ with
    | .ok summary world =>
      (world.notices, .ok summary, ⟨world.disk, some (generator, world.source)⟩)
    | .error stop world =>
      (world.notices, .error stop, ⟨world.disk, some (generator, world.source)⟩)

end Workshop

end Thicket
