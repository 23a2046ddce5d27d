/-
  The disk: entries at places.

  A disk is a finite map from places to entries together with the directory that relative paths
  start from.  Three facts are kept in the type: the top of the tree is a directory, so is whatever
  holds an entry, and every entry has a name that a path can spell.  Three primitive changes are
  enough for every operation, and each has a lemma saying what it does to `get?`, the view that
  everything else is stated through:

  1. `add` puts an entry at a free place of a directory;
  2. `setContent` replaces the content of a file;
  3. `removeBelow` takes away an entry and all that is below it.

  A change that does not fit (no directory to add to, no name to add, no file to write) leaves the
  disk as it is, so the three are total.
-/
import Std.Data.TreeMap
import Thicket.Disk.Path

namespace Thicket

/-- Contents are compared by core's own test, also where a library brings another. -/
instance (priority := 2000) decidableEqContent : DecidableEq ByteArray := ByteArray.instDecidableEq

/-- What can be at a place. -/
inductive Entry where
  /-- A directory. -/
  | directory
  /-- A regular file. -/
  | file (content : ByteArray)
  /-- A symbolic link; the text is resolved where the link stands. -/
  | link (target : String)
  /-- A device that can be opened but has room for nothing. -/
  | fullDevice
deriving DecidableEq

/-- A directory tree, and the directory in it that relative paths start from. -/
structure Disk where
  entries : Std.TreeMap Place Entry
  home : Place
  top_directory : entries[([] : Place)]? = some .directory
  holder_directory : ∀ (name : String) (place : Place),
    entries[name :: place]? ≠ none → entries[place]? = some .directory
  entry_name : ∀ (name : String) (place : Place),
    entries[name :: place]? ≠ none → Path.IsName name

namespace Disk

/-- What is at a place. -/
def get? (disk : Disk) (place : Place) : Option Entry := disk.entries[place]?

theorem get?_nil (disk : Disk) : disk.get? [] = some .directory := disk.top_directory

/-- Whatever holds an entry is a directory. -/
theorem get?_tail {disk : Disk} {name : String} {place : Place}
    (h : disk.get? (name :: place) ≠ none) : disk.get? place = some .directory :=
  disk.holder_directory name place h

/-- Whatever is on a disk has a name. -/
theorem isName_of_get? {disk : Disk} {name : String} {place : Place}
    (h : disk.get? (name :: place) ≠ none) : Path.IsName name :=
  disk.entry_name name place h

/-! ## Primitive changes -/

theorem getElem?_insert_place (entries : Std.TreeMap Place Entry) (key place : Place)
    (entry : Entry) :
    (entries.insert key entry)[place]? = if key = place then some entry else entries[place]? := by
  simp [Std.TreeMap.getElem?_insert, Std.LawfulEqCmp.compare_eq_iff_eq]

/-- Puts an entry at a free place of a directory. -/
def add (disk : Disk) (parent : Place) (name : String) (entry : Entry) : Disk :=
  if h : disk.get? parent = some .directory ∧ disk.get? (name :: parent) = none ∧
      Path.IsName name then
    { disk with
      entries := disk.entries.insert (name :: parent) entry
      top_directory := by
        rw [getElem?_insert_place, if_neg (by simp)]
        exact disk.top_directory
      holder_directory := by
        intro n p hp
        rw [getElem?_insert_place] at hp
        rw [getElem?_insert_place]
        have hfree : disk.entries[name :: parent]? = none := h.2.1
        split at hp
        · rename_i heq
          have : parent = p := (List.cons.inj heq).2
          subst this
          rw [if_neg (List.cons_ne_self _ _)]
          exact h.1
        · have hold := disk.holder_directory n p hp
          split
          · rename_i heq
            rw [heq, hold] at hfree
            cases hfree
          · exact hold
      entry_name := by
        intro n p hp
        rw [getElem?_insert_place] at hp
        split at hp
        · rename_i heq
          exact (List.cons.inj heq).1 ▸ h.2.2
        · exact disk.entry_name n p hp }
  else disk

/-- Replaces the content of a file. -/
def setContent (disk : Disk) (place : Place) (content : ByteArray) : Disk :=
  match h : disk.get? place with
  | some (.file old) =>
    { disk with
      entries := disk.entries.insert place (.file content)
      top_directory := by
        rw [getElem?_insert_place]
        split
        · rename_i heq
          subst heq
          rw [get?_nil] at h
          cases h
        · exact disk.top_directory
      holder_directory := by
        intro n p hp
        rw [getElem?_insert_place] at hp
        rw [getElem?_insert_place]
        have hold : disk.entries[p]? = some .directory := by
          split at hp
          · rename_i heq
            apply disk.holder_directory n
            rw [← heq]
            intro hnone
            rw [get?, hnone] at h
            cases h
          · exact disk.holder_directory n p hp
        split
        · rename_i heq
          subst heq
          rw [get?, hold] at h
          cases h
        · exact hold
      entry_name := by
        intro n p hp
        rw [getElem?_insert_place] at hp
        split at hp
        · rename_i heq
          apply disk.entry_name n p
          rw [← heq]
          intro hnone
          rw [get?, hnone] at h
          cases h
        · exact disk.entry_name n p hp }
  | _ => disk

/-- The place is the given one or below it. -/
def within (place above : Place) : Bool := above.isSuffixOf place

/-- Places are lists with the last name first, so what is below a place has it as a suffix. -/
theorem within_iff {place above : Place} : within place above = true ↔ above <:+ place :=
  List.isSuffixOf_iff_suffix

theorem within_eq_false_iff {place above : Place} :
    within place above = false ↔ ¬ above <:+ place := by
  rw [← within_iff, Bool.not_eq_true]

/-- Takes away an entry and all that is below it; the top stays. -/
def removeBelow (disk : Disk) (name : String) (parent : Place) : Disk :=
  { disk with
    entries := disk.entries.filter fun place _ => !within place (name :: parent)
    top_directory := by
      rw [Std.TreeMap.getElem?_filter']
      simp [disk.top_directory, within]
    holder_directory := by
      intro n p hp
      rw [Std.TreeMap.getElem?_filter'] at hp ⊢
      obtain ⟨entry, hentry⟩ := Option.ne_none_iff_exists'.1 hp
      obtain ⟨hold, hkeep⟩ := Option.filter_eq_some_iff.1 hentry
      rw [disk.holder_directory n p (by simp [hold])]
      rw [Bool.not_eq_true', within_eq_false_iff] at hkeep
      have : within p (name :: parent) = false :=
        within_eq_false_iff.2 fun h => hkeep (h.trans (List.suffix_cons n p))
      simp [this]
    entry_name := by
      intro n p hp
      rw [Std.TreeMap.getElem?_filter'] at hp
      obtain ⟨entry, hentry⟩ := Option.ne_none_iff_exists'.1 hp
      obtain ⟨hold, -⟩ := Option.filter_eq_some_iff.1 hentry
      exact disk.entry_name n p (by simp [hold]) }

/-! ## What the changes do to the view

  Each change is known by what can be seen at every place afterwards; the proofs that the
  changed disk is well formed are not needed again. -/

/-- Where there is room for it the new entry is there, and everything else is as it was. -/
theorem get?_add {disk : Disk} {parent : Place} {name : String} {entry : Entry}
    (hparent : disk.get? parent = some .directory) (hfree : disk.get? (name :: parent) = none)
    (hname : Path.IsName name) (place : Place) : (disk.add parent name entry).get? place =
      if name :: parent = place then some entry else disk.get? place := by
  simp only [add, hparent, hfree, hname, and_self, dite_true]
  exact getElem?_insert_place _ _ _ _

/-- The file has the new content, and everything else is as it was. -/
theorem get?_setContent {disk : Disk} {file : Place} {old : ByteArray}
    (h : disk.get? file = some (.file old)) (content : ByteArray) (place : Place) :
    (disk.setContent file content).get? place =
      if file = place then some (.file content) else disk.get? place := by
  unfold setContent
  split
  · exact getElem?_insert_place _ _ _ _
  · rename_i hne
    exact absurd h (hne old)

/-- The entry and all that was below it is gone, and nothing else. -/
theorem get?_removeBelow (disk : Disk) (name : String) (parent place : Place) :
    (disk.removeBelow name parent).get? place =
      if (name :: parent) <:+ place then none else disk.get? place := by
  rw [get?, removeBelow, Std.TreeMap.getElem?_filter']
  split
  · rename_i h
    simp [within_iff.2 h]
  · rename_i h
    cases h' : disk.entries[place]? <;> simp [within_eq_false_iff.2 h, get?, h']

/-! ## Disks to start from -/

/-- A disk with nothing on it but the top directory. -/
def empty : Disk where
  entries := (∅ : Std.TreeMap Place Entry).insert [] .directory
  home := []
  top_directory := by rw [getElem?_insert_place, if_pos rfl]
  holder_directory := by
    intro n p hp
    rw [getElem?_insert_place, if_neg (by simp)] at hp
    simp at hp
  entry_name := by
    intro n p hp
    rw [getElem?_insert_place, if_neg (by simp)] at hp
    simp at hp

/-- A disk with the device `/dev/full` and nothing else. -/
def withFullDevice : Disk :=
  (empty.add [] "dev" .directory).add ["dev"] "full" .fullDevice

/-- Makes a directory below the top and starts relative paths there. -/
def atHome (disk : Disk) (name : String) : Disk :=
  { disk.add [] name .directory with home := [name] }

/-- The names in a directory, in order. -/
def namesIn (disk : Disk) (directory : Place) : List String :=
  disk.entries.keys.filterMap fun
    | name :: parent => if parent = directory then some name else none
    | [] => none

/-! ## Small checks -/

example : withFullDevice.get? ["full", "dev"] = some .fullDevice := by decide +kernel
example : (withFullDevice.removeBelow "dev" []).get? ["full", "dev"] = none := by decide +kernel

end Disk

end Thicket
