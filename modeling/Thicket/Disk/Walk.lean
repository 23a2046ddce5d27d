/-
  Walking a path.

  A path is walked piece by piece from the top of the tree or from the disk's home.  Every piece,
  be it empty, `.`, `..` or a name, asks for a directory to stand in.  A link met on the way is
  replaced by its own pieces, walked from where the link stands; forty links may be followed.

  The last name of a path is special, for the operations treat it differently.  The walk ends at
  an `Arrival`: either a directory that the path names by its steps alone, or a slot, the last
  name in the directory that would hold it, together with whether slashes follow the name.
  A `Gait` says for which last names, with or without slashes, the walk stops before it looks
  whether the name is a link, and how far from the top it dares to go.

  The recursion is on the pieces; following a link is a parameter, so that the recursion on the
  number of links left is a second one around it.
-/
import Thicket.Disk.Basic
import Thicket.Disk.Cause

namespace Thicket

/-- Where a walk ends. -/
inductive Arrival where
  /-- At a directory that was reached by a step that is no name. -/
  | directory (place : Place)
  /-- At the last name of the path; true means that slashes follow it. -/
  | slot (parent : Place) (name : String) (slashed : Bool)
deriving DecidableEq, Repr

namespace Disk

/-- How a walk treats what it meets. -/
structure Gait where
  /-- Whether the walk stops at a last name, with slashes or without, before looking at it. -/
  handOver : Bool → Bool
  /-- Whether the walk may step to a place. -/
  admits : Place → Bool
  /-- Whether the walk may ask if there is a directory at a place. -/
  probes : Place → Bool

/-- Walks pieces from a place, following each link as told. -/
def walkPieces (disk : Disk) (gait : Gait) (follow : Place → List String → Except Cause Arrival) :
    Place → List String → Except Cause Arrival
  | place, [] => .ok (.directory place)
  | place, piece :: rest =>
    if disk.get? place ≠ some .directory then .error .notDirectory
    else if piece = "" ∨ piece = "." then walkPieces disk gait follow place rest
    else if piece = ".." then walkPieces disk gait follow place.tail rest
    else
      let last := rest.all (· = "")
      let slashed := !rest.isEmpty
      if last && gait.handOver slashed then .ok (.slot place piece slashed)
      else if !gait.admits (piece :: place) then .error .nameTooLong
      else
        match disk.get? (piece :: place) with
        | some (.link target) =>
          follow (if Path.isAbsolute target then [] else place) (Path.split target ++ rest)
        | found =>
          if Path.asksForDirectory rest && !gait.probes (piece :: place) then .error .nameTooLong
          else if last then .ok (.slot place piece slashed)
          else if !Path.nameFits piece then .error .nameTooLong
          else if found.isNone then .error .notFound
          else walkPieces disk gait follow (piece :: place) rest

/-- Walks pieces from a place, following at most the given number of links. -/
def walk (disk : Disk) (gait : Gait) : Nat → Place → List String → Except Cause Arrival
  | 0 => walkPieces disk gait fun _ _ => .error .linkLoop
  | links + 1 => walkPieces disk gait (walk disk gait links)

/-- How many links a walk follows. -/
def linkLimit : Nat := 40

/-- Walks a path, which must be a non-empty text of bearable length without a NUL. -/
def arrive (disk : Disk) (gait : Gait) (path : String) : Except Cause Arrival :=
  if path.toList.contains '\x00' then .error .nulInPath
  else if path = "" then .error .notFound
  else if !Path.fits path then .error .nameTooLong
  else walk disk gait linkLimit (if Path.isAbsolute path then [] else disk.home) (Path.split path)

/-! ## Gaits -/

/-- A walk that dares to go everywhere. -/
def anywhere (handOver : Bool → Bool) : Gait := ⟨handOver, fun _ => true, fun _ => true⟩

/-- Follows every link. -/
def following : Gait := anywhere fun _ => false

/-- Stops at the last name, whatever it is. -/
def stopping : Gait := anywhere fun _ => true

/-- Follows every link, but not a last name with slashes behind it. -/
def stoppingAtSlash : Gait := anywhere fun slashed => slashed

/-- Follows a last name only if slashes stand behind it. -/
def followingSlash : Gait := anywhere fun slashed => !slashed

/-- Follows every link, and steps to no place whose absolute path is too long; where it has to ask
    for a directory, a slash behind that path must fit too. -/
def resolving : Gait where
  handOver _ := false
  admits place := Path.fits (Path.ofPlace place)
  probes place := Path.fits (Path.ofPlace place ++ "/")

/-! ## What stands at the end of a path -/

/-- What is at a name in a directory; a name that holds a NUL or is too long cannot even be asked
    for. -/
def lookUp (disk : Disk) (parent : Place) (name : String) : Except Cause (Option Entry) :=
  if name.toList.contains '\x00' then .error .nulInPath
  else if Path.nameFits name then .ok (disk.get? (name :: parent))
  else .error .nameTooLong

theorem lookUp_of_isStep {name : String} (h : Path.IsStep name) (disk : Disk) (parent : Place) :
    disk.lookUp parent name =
      if Path.nameFits name then .ok (disk.get? (name :: parent)) else .error .nameTooLong := by
  have hnul : name.toList.contains '\x00' = false := by simpa using h.no_nul
  rw [lookUp, hnul, if_neg Bool.false_ne_true]

/-- What could be asked for. -/
theorem lookUp_eq_ok {disk : Disk} {parent : Place} {name : String} {found : Option Entry}
    (h : disk.lookUp parent name = .ok found) :
    '\x00' ∉ name.toList ∧ Path.nameFits name = true ∧ disk.get? (name :: parent) = found := by
  rw [lookUp] at h
  split at h
  · cases h
  · rename_i hnul
    split at h
    · rename_i hfits
      exact ⟨by simpa using hnul, hfits, by simpa using h⟩
    · cases h

/-- The place and the entry at the end of a path; a last name that the gait stops at is not looked
    through. -/
def findAt (disk : Disk) (gait : Gait) (path : String) : Except Cause (Place × Entry) := do
  match ← disk.arrive gait path with
  | .directory place => pure (place, .directory)
  | .slot parent name slashed =>
    match ← disk.lookUp parent name with
    | none => throw .notFound
    | some entry =>
      if slashed && entry ≠ .directory then throw .notDirectory
      else pure (name :: parent, entry)

/-- The place and the entry that a path leads to. -/
def find (disk : Disk) (path : String) : Except Cause (Place × Entry) :=
  disk.findAt following path

/-- There is something at the end of the path. -/
def pathExists (disk : Disk) (path : String) : Bool := (disk.find path).toBool

/-- The path leads to a directory. -/
def isDirectory (disk : Disk) (path : String) : Bool :=
  match disk.find path with
  | .ok (_, .directory) => true
  | _ => false

/-- The place that a path leads to, all links resolved. -/
def resolve (disk : Disk) (path : String) : Except Cause Place := do
  let (place, _) ← disk.findAt resolving path
  pure place

end Disk

end Thicket
