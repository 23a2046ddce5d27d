/-
  Listings.

  A listing names everything below a directory, one line an entry, relative to that directory.  A
  directory is written with a slash behind it and its own entries follow; anything else is written
  with its length and a fingerprint of its bytes.  Links are looked through, by path: a link to a
  directory is listed as that directory, for as long as paths through it can still be resolved.
  The lines are sorted.
-/
import Thicket.Disk.Operations

namespace Thicket

namespace Listing

/-! ## Fingerprints -/

/-- The FNV-1a hash of 64 bits. -/
def fingerprint (bytes : ByteArray) : UInt64 :=
  bytes.foldl (fun hash byte => (hash ^^^ byte.toUInt64) * 0x100000001b3) 0xcbf29ce484222325

/-- A number in hexadecimal with leading zeros up to sixteen digits. -/
def hex16 (n : UInt64) : String :=
  let digits := Nat.toDigits 16 n.toNat
  String.ofList (List.replicate (16 - digits.length) '0' ++ digits)

/-! ## Lines -/

/-- The line of an entry that is no directory; what is no regular file counts as empty. -/
def fileLine (disk : Disk) (path shown : String) : String :=
  let content := match disk.find path with
    | .ok (_, .file content) => content
    | _ => .empty
  shown ++ ":" ++ toString content.size ++ ":" ++ hex16 (fingerprint content)

/-- The lines of everything below a directory.  The path leads to it and `shown` is what its entries
    are listed under.  Paths get longer by each level, so the fuel of a path's greatest length is
    never used up. -/
def linesBelow (disk : Disk) : Nat → String → String → List String
  | 0, _, _ => []
  | fuel + 1, path, shown =>
    match disk.find path with
    | .ok (place, .directory) =>
      (disk.namesIn place).flatMap fun name =>
        let inner := Path.join path name
        if disk.isDirectory inner then
          (shown ++ name ++ "/") :: linesBelow disk fuel inner (shown ++ name ++ "/")
        else [fileLine disk inner (shown ++ name)]
    | _ => []

end Listing

/-- Everything below the directory at a path, sorted. -/
def Disk.listing (disk : Disk) (path : String) : List String :=
  (Listing.linesBelow disk Path.sizeLimit path "").mergeSort (· ≤ ·)

end Thicket
