/-
  What can be done to a disk.

  Every operation takes a path and either answers or names the cause of its refusal.  One that
  refuses leaves the disk as it was, with two exceptions that do their work in several steps:
  `makeDirectories` and `removeAll` keep the steps done before the refusal, and therefore return
  a disk in any case.
-/
import Thicket.Disk.Walk

namespace Thicket

namespace Disk

/-! ## Directories -/

/-- Makes a directory. -/
def makeDirectory (disk : Disk) (path : String) : Except Cause Disk := do
  match ← disk.arrive stopping path with
  | .directory _ => throw .alreadyThere
  | .slot parent name _ =>
    match ← disk.lookUp parent name with
    | some _ => throw .alreadyThere
    | none => pure (disk.add parent name .directory)

/-- Makes the directory at a path and those above it that are missing.  The components of the path
    are given innermost first.  What is there already is accepted if it is a directory. -/
def makeDirectoriesAlong (disk : Disk) (path : String) :
    List Path.Component → Except Cause Unit × Disk
  | [] => (.ok (), disk)
  | component :: above =>
    let settle (disk : Disk) (cause : Cause) : Except Cause Unit × Disk :=
      (if disk.isDirectory path then .ok () else .error cause, disk)
    match disk.makeDirectory path with
    | .ok made => (.ok (), made)
    | .error .notFound =>
      if component = .root then (.error .notFound, disk)
      else
        match makeDirectoriesAlong disk (Path.ofComponents above.reverse) above with
        | (.error cause, grown) => (.error cause, grown)
        | (.ok (), grown) =>
          match grown.makeDirectory path with
          | .ok made => (.ok (), made)
          | .error cause => settle grown cause
    | .error cause => settle disk cause

/-- Makes the directory at a path and those above it that are missing. -/
def makeDirectories (disk : Disk) (path : String) : Except Cause Unit × Disk :=
  disk.makeDirectoriesAlong path (Path.components path).reverse

/-! ## Files -/

/-- Where the bytes of an opened file go. -/
inductive Sink where
  /-- Into the file at a place, from the given offset on. -/
  | file (place : Place) (offset : Nat)
  /-- Into a device that has room for nothing. -/
  | full
  /-- Into a file that is no longer in the tree. -/
  | lost
deriving DecidableEq, Repr

/-- Opens a file for writing from its start: makes it if it is missing and empties it if it is
    there. -/
def openForWriting (disk : Disk) (path : String) : Except Cause (Sink × Disk) := do
  match ← disk.arrive stoppingAtSlash path with
  | .directory _ => throw .isDirectory
  | .slot parent name slashed =>
    if slashed then throw .isDirectory
    else
      match ← disk.lookUp parent name with
      | none => pure (.file (name :: parent) 0, disk.add parent name (.file .empty))
      | some (.file _) => pure (.file (name :: parent) 0, disk.setContent (name :: parent) .empty)
      | some .fullDevice => pure (.full, disk)
      | some .directory => throw .isDirectory
      | some (.link _) => throw .linkLoop

/-- The content with some bytes written over it from an offset on; a gap is filled with zeros. -/
def overwrite (content : ByteArray) (offset : Nat) (bytes : ByteArray) : ByteArray :=
  let front := content.extract 0 offset
  let gap := ByteArray.mk (Array.replicate (offset - front.size) 0)
  front ++ gap ++ bytes ++ content.extract (offset + bytes.size) content.size

/-- Writing at the end of a content appends. -/
theorem overwrite_size (content bytes : ByteArray) :
    overwrite content content.size bytes = content ++ bytes := by
  have hgap : ByteArray.mk #[] = ByteArray.empty := rfl
  have hrest : content.extract (content.size + bytes.size) content.size = ByteArray.empty := by
    apply ByteArray.ext
    simp
  simp [overwrite, hgap, hrest]

/-- Writes bytes to an opened file. -/
def write (disk : Disk) (sink : Sink) (bytes : ByteArray) : Except Cause (Sink × Disk) :=
  match sink with
  | .lost => .ok (.lost, disk)
  | .full => if bytes.isEmpty then .ok (.full, disk) else .error .noSpace
  | .file place offset =>
    match disk.get? place with
    | some (.file content) =>
      .ok (.file place (offset + bytes.size),
        disk.setContent place (overwrite content offset bytes))
    | _ => .ok (.lost, disk)

/-- Makes a file that was not there, with its content. -/
def makeFile (disk : Disk) (path : String) (content : ByteArray) : Except Cause Disk := do
  match ← disk.arrive stopping path with
  | .directory _ => throw .isDirectory
  | .slot parent name slashed =>
    if slashed then throw .isDirectory
    else
      match ← disk.lookUp parent name with
      | some _ => throw .alreadyThere
      | none => pure (disk.add parent name (.file content))

/-- Makes a file hold a text and nothing else. -/
def writeText (disk : Disk) (path text : String) : Except Cause Unit × Disk :=
  match disk.openForWriting path with
  | .error cause => (.error cause, disk)
  | .ok (sink, opened) =>
    match opened.write sink text.toUTF8 with
    | .error cause => (.error cause, opened)
    | .ok (_, written) => (.ok (), written)

/-- The text in a file; a device has none. -/
def readText (disk : Disk) (path : String) : Except Cause String := do
  match ← disk.find path with
  | (_, .directory) => throw .isDirectory
  | (_, .file content) =>
    match String.fromUTF8? content with
    | some text => pure text
    | none => throw .notText
  | _ => pure ""

/-! ## Links and removal -/

/-- Makes a symbolic link; what it leads to need not be there. -/
def makeLink (disk : Disk) (path target : String) : Except Cause Disk := do
  if target.toList.contains '\x00' ∨ path.toList.contains '\x00' then throw .nulInPath
  if target = "" then throw .notFound
  if !Path.fits target then throw .nameTooLong
  match ← disk.arrive stopping path with
  | .directory _ => throw .alreadyThere
  | .slot parent name slashed =>
    match ← disk.lookUp parent name with
    | some _ => throw .alreadyThere
    | none => if slashed then throw .notFound else pure (disk.add parent name (.link target))

/-- Takes away everything below a directory. -/
def clear (disk : Disk) (place : Place) : Disk :=
  (disk.namesIn place).foldl (fun disk name => disk.removeBelow name place) disk

/-- Takes away an empty directory; a link to one is none. -/
def removeDirectory (disk : Disk) (path : String) : Except Cause Disk := do
  match ← disk.arrive stopping path with
  | .directory _ =>
    match Path.lastPiece? path with
    | none => throw .busy
    | some piece => throw (if piece = "." then .invalidArgument else .notEmpty)
  | .slot parent name _ =>
    match ← disk.lookUp parent name with
    | none => throw .notFound
    | some .directory =>
      if (disk.namesIn (name :: parent)).isEmpty then pure (disk.removeBelow name parent)
      else throw .notEmpty
    | some _ => throw .notDirectory

/-- Takes away a link itself, or a directory with all that is below it.  A directory is emptied
    first and then taken away by its path.  If emptying it cut the path off, it stays, and that is
    no failure; if the path has no name for it to be taken away by, it stays too. -/
def removeAll (disk : Disk) (path : String) : Except Cause Unit × Disk :=
  match disk.findAt followingSlash path with
  | .error cause => (.error cause, disk)
  | .ok (name :: parent, .link _) => (.ok (), disk.removeBelow name parent)
  | .ok (place, .directory) =>
    let cleared := disk.clear place
    match cleared.removeDirectory path with
    | .ok removed => (.ok (), removed)
    | .error .notFound => (.ok (), cleared)
    | .error cause => (.error cause, cleared)
  | .ok _ => (.error .notDirectory, disk)

/-! ## Small checks -/

example : ((withFullDevice.makeDirectories "/a/b").2.makeDirectory "/a/b").isOk = false := by
  decide +kernel
example : (withFullDevice.makeDirectories "/a/../b").2.isDirectory "/a" = true := by decide +kernel
example : (withFullDevice.openForWriting "/dev/full").isOk = true := by decide +kernel
example : ((withFullDevice.makeDirectories "/a/b").2.removeAll "/a/b/..").1.isOk = true := by
  decide +kernel
example : ((withFullDevice.makeDirectories "/a/b").2.removeAll "/a/.").1.isOk = false := by
  decide +kernel

end Disk

end Thicket
