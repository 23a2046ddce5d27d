/-
  What has to be done to one disk to make it another.
-/
import Thicket.Disk.Basic

namespace Thicket

/-- The entries of a disk that were not there before, or not as they are now; what holds an entry
    comes before it. -/
def Disk.changesSince (disk before : Disk) : List (Place × Entry) :=
  let changed := disk.entries.toList.filter fun (place, entry) => before.get? place ≠ some entry
  changed.mergeSort fun (first, _) (second, _) => first.length ≤ second.length

/-- Adds the directories that lead to a place; those that are there already stay. -/
def Disk.withDirectories (disk : Disk) : Place → Disk
  | [] => disk
  | name :: parent => (withDirectories disk parent).add parent name .directory

/-! ## Small checks -/

example : ((Disk.empty.withDirectories ["b", "a"]).changesSince Disk.empty).map (·.1) =
    [["a"], ["b", "a"]] := by cbv

end Thicket
