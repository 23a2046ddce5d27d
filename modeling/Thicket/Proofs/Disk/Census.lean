/-
  Counting what is below a directory.

  A disk is a map from places to entries, and what is below a directory are those of its keys that
  lead through it.  The keys of a map are a list without repetitions, and so is every list here,
  being a part of them.  For such lists it is enough to know the members: two of them with the
  same members are permutations of each other, and as long as each other.  So each list has two
  lemmas:

  1. **Its members** (`mem_placesBelow`, `mem_directoriesBelow`, `mem_filesBelow`): a place is
     counted below a directory if there is an entry and some names, not none, lead to it from
     there.
  2. **No repetitions** (`placesBelow_nodup`, `directoriesBelow_nodup`, `filesBelow_nodup`).

  The second section does the same for the names in one directory.  They are found by another way,
  from all keys whose parent is the place, and divide into those of subdirectories and all others.

  Both sections serve the same end: what the planner of a tree has recorded, in the order in which
  it planned it, is compared with what is found on the disk in the order of its keys.
-/
import Thicket.Disk.Basic
import Mathlib.Data.List.Nodup

namespace Thicket

namespace Disk

/-- The places of all entries below a directory. -/
def placesBelow (disk : Disk) (top : Place) : List Place :=
  disk.entries.keys.filter fun place => within place top && decide (place ≠ top)

/-- The places of all subdirectories of a directory, at all depths. -/
def directoriesBelow (disk : Disk) (top : Place) : List Place :=
  (disk.placesBelow top).filter fun place => decide (disk.get? place = some .directory)

/-- The place is that of a file. -/
def isFileAt (disk : Disk) (place : Place) : Bool :=
  match disk.get? place with
  | some (.file _) => true
  | _ => false

/-- The places of all files below a directory, at all depths. -/
def filesBelow (disk : Disk) (top : Place) : List Place :=
  (disk.placesBelow top).filter disk.isFileAt

variable {disk : Disk} {top place : Place}

theorem mem_keys : place ∈ disk.entries.keys ↔ disk.get? place ≠ none := by
  rw [Std.TreeMap.mem_keys, get?, Std.TreeMap.mem_iff_isSome_getElem?, Option.ne_none_iff_isSome]

/-- An entry is below the top if at least one name leads to it from there; the top itself is
    not. -/
theorem mem_placesBelow :
    place ∈ disk.placesBelow top ↔
      disk.get? place ≠ none ∧ ∃ front, front ≠ [] ∧ front ++ top = place := by
  rw [placesBelow, List.mem_filter, mem_keys, Bool.and_eq_true, within_iff, decide_eq_true_eq]
  constructor
  · -- what leads to another place than the top is not empty
    rintro ⟨hentry, ⟨front, rfl⟩, hne⟩
    refine ⟨hentry, front, ?_, rfl⟩
    rintro rfl
    exact hne rfl
  · rintro ⟨hentry, front, hfront, rfl⟩
    refine ⟨hentry, ⟨front, rfl⟩, ?_⟩
    intro hsame
    exact hfront (List.append_left_eq_self.1 hsame)

/-- Each place below the top is listed once, for it is once among the keys. -/
theorem placesBelow_nodup (disk : Disk) (top : Place) : (disk.placesBelow top).Nodup :=
  Std.TreeMap.nodup_keys.filter _

/-- The subdirectories are the directories among the places below. -/
theorem mem_directoriesBelow :
    place ∈ disk.directoriesBelow top ↔
      disk.get? place = some .directory ∧ ∃ front, front ≠ [] ∧ front ++ top = place := by
  rw [directoriesBelow, List.mem_filter, mem_placesBelow, decide_eq_true_eq]
  constructor
  · rintro ⟨⟨-, hbelow⟩, hdirectory⟩
    exact ⟨hdirectory, hbelow⟩
  · rintro ⟨hdirectory, hbelow⟩
    exact ⟨⟨by simp [hdirectory], hbelow⟩, hdirectory⟩

/-- The check for a file, as a statement about the entry. -/
theorem isFileAt_iff : disk.isFileAt place = true ↔
    ∃ content, disk.get? place = some (.file content) := by
  unfold isFileAt
  split
  · rename_i content hentry
    exact ⟨fun _ => ⟨content, hentry⟩, fun _ => rfl⟩
  · rename_i hother
    constructor
    · intro h
      cases h
    · rintro ⟨content, hentry⟩
      exact absurd hentry (hother content)

/-- The files are those of the places below with a file at them, whatever it holds. -/
theorem mem_filesBelow :
    place ∈ disk.filesBelow top ↔
      (∃ content, disk.get? place = some (.file content)) ∧
        ∃ front, front ≠ [] ∧ front ++ top = place := by
  rw [filesBelow, List.mem_filter, mem_placesBelow, isFileAt_iff]
  constructor
  · rintro ⟨⟨-, hbelow⟩, hfile⟩
    exact ⟨hfile, hbelow⟩
  · rintro ⟨⟨content, hfile⟩, hbelow⟩
    exact ⟨⟨by simp [hfile], hbelow⟩, content, hfile⟩

theorem directoriesBelow_nodup (disk : Disk) (top : Place) : (disk.directoriesBelow top).Nodup :=
  (disk.placesBelow_nodup top).filter _

theorem filesBelow_nodup (disk : Disk) (top : Place) : (disk.filesBelow top).Nodup :=
  (disk.placesBelow_nodup top).filter _

/-! ## One directory

  The names are the first parts of those keys whose rest is the place of the directory.  Listing
  them takes no walk, so it holds for places that no path can spell as well. -/

/-- The names of the subdirectories of a directory. -/
def subdirectoriesIn (disk : Disk) (place : Place) : List String :=
  (disk.namesIn place).filter fun name => decide (disk.get? (name :: place) = some .directory)

/-- The names of all other entries of a directory. -/
def othersIn (disk : Disk) (place : Place) : List String :=
  (disk.namesIn place).filter fun name => decide (disk.get? (name :: place) ≠ some .directory)

/-- A name is listed if there is an entry of that name in the directory. -/
theorem mem_namesIn {name : String} :
    name ∈ disk.namesIn place ↔ disk.get? (name :: place) ≠ none := by
  rw [namesIn, List.mem_filterMap]
  constructor
  · rintro ⟨key, hkey, hname⟩
    cases key with
    | nil => cases hname
    | cons last parent =>
      obtain ⟨rfl, hlast⟩ := Option.ite_none_right_eq_some.1 hname
      rw [← Option.some.inj hlast]
      exact mem_keys.1 hkey
  · intro hentry
    exact ⟨name :: place, mem_keys.2 hentry, if_pos rfl⟩

/-- Each name is listed once: two keys with the same name and the same rest are the same key. -/
theorem namesIn_nodup (disk : Disk) (place : Place) : (disk.namesIn place).Nodup := by
  -- no two keys give the same name, for the rest of both is the place
  refine List.Nodup.filterMap ?_ Std.TreeMap.nodup_keys
  intro first second name hfirst hsecond
  cases first with
  | nil => cases hfirst
  | cons last parent =>
    cases second with
    | nil => cases hsecond
    | cons last' parent' =>
      obtain ⟨rfl, hname⟩ := Option.ite_none_right_eq_some.1 hfirst
      obtain ⟨rfl, hname'⟩ := Option.ite_none_right_eq_some.1 hsecond
      rw [Option.some.inj hname, Option.some.inj hname']

/-- The names of subdirectories are those that lead to a directory. -/
theorem mem_subdirectoriesIn {name : String} :
    name ∈ disk.subdirectoriesIn place ↔ disk.get? (name :: place) = some .directory := by
  rw [subdirectoriesIn, List.mem_filter, mem_namesIn, decide_eq_true_eq]
  constructor
  · exact And.right
  · intro hdirectory
    exact ⟨by simp [hdirectory], hdirectory⟩

/-- All other names lead to something that is no directory: a file, a link or the device. -/
theorem mem_othersIn {name : String} :
    name ∈ disk.othersIn place ↔
      ∃ entry, disk.get? (name :: place) = some entry ∧ entry ≠ .directory := by
  rw [othersIn, List.mem_filter, mem_namesIn, decide_eq_true_eq, Option.ne_none_iff_exists']
  constructor
  · rintro ⟨⟨entry, hentry⟩, hne⟩
    refine ⟨entry, hentry, ?_⟩
    rintro rfl
    exact hne hentry
  · rintro ⟨entry, hentry, hne⟩
    exact ⟨⟨entry, hentry⟩, by simpa [hentry] using hne⟩

theorem subdirectoriesIn_nodup (disk : Disk) (place : Place) :
    (disk.subdirectoriesIn place).Nodup :=
  (disk.namesIn_nodup place).filter _

theorem othersIn_nodup (disk : Disk) (place : Place) : (disk.othersIn place).Nodup :=
  (disk.namesIn_nodup place).filter _

end Disk

end Thicket
