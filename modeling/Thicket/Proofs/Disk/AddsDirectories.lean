/-
  Making directories only adds to a disk.

  Whatever `makeDirectories` is asked for and however it ends, what was on the disk is still
  there, and what is new are directories (`makeDirectories_adds`).

  1. **The order** — `AddsDirectories` compares two disks place by place.  It is reflexive and
     transitive, so it can be followed along a sequence of changes, and it can be read in both
     directions: what was there is there (`get?_eq`), and what is there and is no directory was
     there (`of_get?_eq`).
  2. **One directory** — a successful `makeDirectory` has put a directory into a slot where there
     was nothing (`makeDirectory_eq_ok`).  This is the inversion that every later statement about
     new directories goes back to.
  3. **All directories of a path** — `makeDirectories` tries the path, makes the directories above
     it if something is missing there, and tries again.  The disk that a failure leaves behind is
     part of the statement: directories that were made before the failure stay.
-/
import Thicket.Proofs.Disk.Slots

namespace Thicket

namespace Disk

/-! ## Disks with directories more -/

/-- The second disk is the first one with perhaps some directories more. -/
def AddsDirectories (before after : Disk) : Prop :=
  ∀ place, after.get? place = before.get? place ∨
    before.get? place = none ∧ after.get? place = some .directory

theorem AddsDirectories.refl (disk : Disk) : AddsDirectories disk disk :=
  fun _ => Or.inl rfl

/-- Directories added after others were added are added to the first disk: a place that was
    filled on the way is not filled again. -/
theorem AddsDirectories.trans {first second third : Disk} (h : AddsDirectories first second)
    (h' : AddsDirectories second third) : AddsDirectories first third := by
  intro place
  rcases h place with hsame | ⟨hnone, hmade⟩
  · rcases h' place with hsame' | ⟨hnone', hmade'⟩
    · exact Or.inl (hsame'.trans hsame)
    · exact Or.inr ⟨hsame ▸ hnone', hmade'⟩
  · rcases h' place with hsame' | ⟨hnone', -⟩
    · exact Or.inr ⟨hnone, hsame'.trans hmade⟩
    · rw [hmade] at hnone'
      cases hnone'

/-- What is there and no directory was there before. -/
theorem AddsDirectories.of_get?_eq {before after : Disk} (h : AddsDirectories before after)
    {place : Place} {entry : Entry} (hentry : after.get? place = some entry)
    (hne : entry ≠ .directory) : before.get? place = some entry := by
  rcases h place with hsame | ⟨-, hmade⟩
  · rw [← hsame, hentry]
  · rw [hentry] at hmade
    exact absurd (Option.some.inj hmade) hne

/-- What was there before is still there. -/
theorem AddsDirectories.get?_eq {before after : Disk} (h : AddsDirectories before after)
    {place : Place} {entry : Entry} (hentry : before.get? place = some entry) :
    after.get? place = some entry := by
  rcases h place with hsame | ⟨hnone, -⟩
  · rw [hsame, hentry]
  · rw [hentry] at hnone
    cases hnone

/-- A directory in a vacant slot is one directory more. -/
theorem Vacant.adds {disk : Disk} {parent : Place} {name : String} (h : disk.Vacant parent name) :
    AddsDirectories disk (disk.add parent name .directory) := by
  intro place
  rw [h.get?_add]
  split
  · rename_i hsame
    subst hsame
    exact Or.inr ⟨h.free, rfl⟩
  · exact Or.inl rfl

/-! ## What is made -/

/-- A directory is made in a slot where there is nothing. -/
theorem makeDirectory_eq_ok {disk made : Disk} {path : String}
    (h : disk.makeDirectory path = .ok made) :
    ∃ parent name slashed, disk.arrive stopping path = .ok (.slot parent name slashed) ∧
      disk.Vacant parent name ∧ made = disk.add parent name .directory := by
  rw [makeDirectory] at h
  -- the walk, then the lookup in the slot: each can refuse, and only an empty slot is filled
  cases harrive : disk.arrive stopping path with
  | error cause => simp [harrive, bind, Except.bind] at h
  | ok arrival =>
    cases arrival with
    | directory place =>
      simp [harrive, bind, Except.bind, throw, throwThe, MonadExceptOf.throw] at h
    | slot parent name slashed =>
      cases hlook : disk.lookUp parent name with
      | error cause => simp [harrive, hlook, bind, Except.bind] at h
      | ok found =>
        cases found with
        | some entry =>
          simp [harrive, hlook, bind, Except.bind, throw, throwThe, MonadExceptOf.throw] at h
        | none =>
          simp [harrive, hlook, bind, Except.bind, pure, Except.pure] at h
          exact ⟨parent, name, slashed, rfl, vacant_of_arrive harrive hlook, h.symm⟩

/-- Where a directory is made nothing else changes. -/
theorem makeDirectory_adds {disk made : Disk} {path : String}
    (h : disk.makeDirectory path = .ok made) : AddsDirectories disk made := by
  obtain ⟨parent, name, -, -, hvacant, rfl⟩ := makeDirectory_eq_ok h
  exact hvacant.adds

/-- The attempts along the components of a path, from the whole path outwards, add directories
    only. -/
theorem makeDirectoriesAlong_adds (disk : Disk) (path : String)
    (components : List Path.Component) :
    AddsDirectories disk (disk.makeDirectoriesAlong path components).2 := by
  -- outwards along the components: those above are made before the second attempt
  induction components generalizing path with
  | nil => exact AddsDirectories.refl disk
  | cons component above ih =>
    rw [makeDirectoriesAlong]
    split
    · rename_i made hmade
      exact makeDirectory_adds hmade
    · split
      · exact AddsDirectories.refl disk
      · have hgrown := ih (Path.ofComponents above.reverse)
        split
        · rename_i cause grown hresult
          rw [hresult] at hgrown
          exact hgrown
        · rename_i grown hresult
          rw [hresult] at hgrown
          split
          · rename_i made hmade
            exact hgrown.trans (makeDirectory_adds hmade)
          · exact hgrown
    · exact AddsDirectories.refl disk

/-- **Making directories adds directories and nothing else.** -/
theorem makeDirectories_adds (disk : Disk) (path : String) :
    AddsDirectories disk (disk.makeDirectories path).2 :=
  makeDirectoriesAlong_adds disk path _

end Disk

end Thicket
