/-
  What was opened for writing is what the path leads to.

  Opening a file for writing changes the disk at the end of the path and nowhere else, and no step
  of a walk goes elsewhere for it (`openForWriting_eq_ok`).  There are three ways for it to
  succeed, the constructors of `OpenedSlot`: a file is made where there was nothing, a file that
  is there is emptied, and the full device is left as it is.

  1. **Before** — what the opening finds is what the path led to before
     (`OpenedSlot.find_before`), and a file or a device that a path leads to is opened by it
     (`openForWriting_of_find`).
  2. **After** — the path leads to what was opened, an empty file or a device
     (`OpenedSlot.find_after`).
  3. **Later** — it goes on to lead there as long as directories and links stay as they are
     (`find_of_keepsSteps`), whatever is written to the file (`find_of_rewritten`).

  The two walks that are compared differ in one point: looking a path up follows a link with slashes
  behind it, opening for writing does not.  Where the path ends without slashes they agree
  (`arrive_stoppingAtSlash`).
-/
import Thicket.Proofs.Disk.Route
import Thicket.Proofs.Disk.Slots

namespace Thicket

namespace Disk

variable {disk opened : Disk} {path name : String} {place parent : Place} {entry : Entry}

/-! ## Finding

  A file is found in a slot without slashes behind it, and a repeated walk arrives at the same
  slot. -/

/-- What is found in a slot. -/
theorem findAt_of_slot {gait : Gait} {slashed : Bool}
    (harrive : disk.arrive gait path = .ok (.slot parent name slashed))
    (hentry : disk.get? (name :: parent) = some entry) :
    disk.findAt gait path =
      if slashed && entry ≠ .directory then .error .notDirectory
      else .ok (name :: parent, entry) := by
  have hexists : disk.get? (name :: parent) ≠ none := by simp [hentry]
  have hname : Path.IsName name := isName_of_get? hexists
  have hlook := lookUp_of_isStep hname.toIsStep disk parent
  rw [if_pos hname.fits, hentry] at hlook
  unfold findAt
  simp only [harrive, hlook, bind, Except.bind]
  rfl

/-- A file or a device that a path leads to is in the slot that the path ends at. -/
theorem slot_of_find (h : disk.find path = .ok (place, entry)) (hentry : entry ≠ .directory) :
    ∃ parent name, place = name :: parent ∧
      disk.arrive following path = .ok (.slot parent name false) ∧
        disk.get? place = some entry := by
  obtain ⟨arrival, harrive, hfound⟩ := findAt_eq_ok h
  rcases hfound with ⟨-, hdirectory⟩ | ⟨parent, name, slashed, rfl, rfl, hthere⟩
  · exact absurd hdirectory hentry
  · -- no slashes follow the name, for what was found is no directory
    rw [find, findAt_of_slot harrive hthere] at h
    cases slashed with
    | false => exact ⟨parent, name, rfl, harrive, hthere⟩
    | true =>
      rw [if_pos (by simpa using hentry)] at h
      cases h

/-- **A path that leads to a file goes on to lead there**, whatever is written, while all steps are
    kept. -/
theorem find_of_keepsSteps {after : Disk} {entry' : Entry} (hkeeps : KeepsSteps disk after)
    (h : disk.find path = .ok (place, entry)) (hentry : entry ≠ .directory)
    (hafter : after.get? place = some entry') (hlink : ∀ target, entry' ≠ .link target) :
    after.find path = .ok (place, entry') := by
  obtain ⟨parent, name, rfl, harrive, -⟩ := slot_of_find h hentry
  have hsettled : after.Settled (.slot parent name false) := by
    intro target htarget
    rw [hafter] at htarget
    exact hlink target (Option.some.inj htarget)
  have hagain := arrive_following hkeeps hsettled harrive
  rw [find, findAt_of_slot hagain hafter]
  rfl

/-- A path that leads to a file goes on to lead to it where nothing but its content changes. -/
theorem find_of_rewritten {after : Disk} {content content' : ByteArray}
    (h : disk.find path = .ok (place, .file content)) (hhome : after.home = disk.home)
    (hafter : after.get? place = some (.file content'))
    (helsewhere : ∀ other, other ≠ place → after.get? other = disk.get? other) :
    after.find path = .ok (place, .file content') := by
  obtain ⟨hentry, -⟩ := get?_of_findAt (fun _ => rfl) h
  have hkeeps : KeepsSteps disk after :=
    KeepsSteps.of_elsewhere place hhome (by simp [hentry]) (by simp [hentry]) helsewhere
  exact find_of_keepsSteps hkeeps h nofun hafter nofun

/-! ## Opening

  The slot is the last place that the path names; the name in it may be new, and then it is a
  good one. -/

/-- Writing to a file does not move the directory that relative paths start from. -/
theorem home_setContent (disk : Disk) (place : Place) (content : ByteArray) :
    (disk.setContent place content).home = disk.home := by
  unfold setContent
  split <;> rfl

/-- What an opening has found in the slot at the end of the path, and what it has made of it. -/
inductive OpenedSlot (disk : Disk) (parent : Place) (name : String) : Sink → Disk → Prop
  | made (hvacant : disk.Vacant parent name) :
    OpenedSlot disk parent name (.file (name :: parent) 0) (disk.add parent name (.file .empty))
  | emptied {content : ByteArray} (hfile : disk.get? (name :: parent) = some (.file content)) :
    OpenedSlot disk parent name (.file (name :: parent) 0)
      (disk.setContent (name :: parent) .empty)
  | device (hdevice : disk.get? (name :: parent) = some .fullDevice) :
    OpenedSlot disk parent name .full disk

/-- **What a successful opening has done.** -/
theorem openForWriting_eq_ok {sink : Sink} (h : disk.openForWriting path = .ok (sink, opened)) :
    ∃ parent name, disk.arrive stoppingAtSlash path = .ok (.slot parent name false) ∧
      OpenedSlot disk parent name sink opened := by
  unfold openForWriting at h
  cases harrive : disk.arrive stoppingAtSlash path with
  | error cause => simp [harrive, bind, Except.bind] at h
  | ok arrival =>
    cases arrival with
    | directory there =>
      simp [harrive, bind, Except.bind, throw, throwThe, MonadExceptOf.throw] at h
    | slot parent name slashed =>
      cases slashed with
      | true => simp [harrive, bind, Except.bind, throw, throwThe, MonadExceptOf.throw] at h
      | false =>
        refine ⟨parent, name, rfl, ?_⟩
        cases hlook : disk.lookUp parent name with
        | error cause => simp [harrive, hlook, bind, Except.bind] at h
        | ok found =>
          simp only [harrive, hlook, bind, Except.bind, Bool.false_eq_true, if_false] at h
          obtain ⟨-, -, hentry⟩ := lookUp_eq_ok hlook
          -- what is in the slot decides
          cases found with
          | none =>
            cases h
            exact .made (vacant_of_arrive harrive hlook)
          | some entry =>
            cases entry with
            | directory => cases h
            | link target => cases h
            | file content =>
              cases h
              exact .emptied hentry
            | fullDevice =>
              cases h
              exact .device hentry

/-- **A file or a device that a path leads to is opened by it.** -/
theorem openForWriting_of_find (h : disk.find path = .ok (place, entry))
    (hentry : entry ≠ .directory) :
    ∃ sink opened, disk.openForWriting path = .ok (sink, opened) := by
  obtain ⟨parent, name, rfl, harrive, hthere⟩ := slot_of_find h hentry
  have hstopping := arrive_stoppingAtSlash harrive
  have hexists : disk.get? (name :: parent) ≠ none := by simp [hthere]
  have hname : Path.IsName name := isName_of_get? hexists
  have hlook := lookUp_of_isStep hname.toIsStep disk parent
  rw [if_pos hname.fits, hthere] at hlook
  unfold openForWriting
  simp only [hstopping, hlook, bind, Except.bind, Bool.false_eq_true, if_false]
  cases entry with
  | directory => exact absurd rfl hentry
  | link target => exact absurd rfl ((get?_of_findAt (fun _ => rfl) h).2 target)
  | file content => exact ⟨_, _, rfl⟩
  | fullDevice => exact ⟨_, _, rfl⟩

namespace OpenedSlot

variable {sink : Sink} (h : OpenedSlot disk parent name sink opened)

include h

/-- Nothing changes but what is in the slot. -/
theorem elsewhere {other : Place} (hother : other ≠ name :: parent) :
    opened.get? other = disk.get? other := by
  cases h with
  | made hvacant => rw [hvacant.get?_add, if_neg hother.symm]
  | emptied hfile => rw [get?_setContent hfile, if_neg hother.symm]
  | device _ => rfl

/-- What is in the slot then is what the bytes go to. -/
theorem there :
    sink = .file (name :: parent) 0 ∧ opened.get? (name :: parent) = some (.file .empty) ∨
      sink = .full ∧ opened.get? (name :: parent) = some .fullDevice := by
  cases h with
  | made hvacant => exact Or.inl ⟨rfl, by rw [hvacant.get?_add, if_pos rfl]⟩
  | emptied hfile => exact Or.inl ⟨rfl, by rw [get?_setContent hfile, if_pos rfl]⟩
  | device hdevice => exact Or.inr ⟨rfl, hdevice⟩

/-- Opening for writing keeps all steps, for it changes neither a directory nor a link. -/
theorem keepsSteps : KeepsSteps disk opened := by
  refine KeepsSteps.of_elsewhere (name :: parent) ?_ ?_ ?_ fun _ hother => h.elsewhere hother
  · cases h with
    | made _ => exact home_add disk parent name _
    | emptied _ => exact home_setContent disk _ _
    | device _ => rfl
  · cases h with
    | made hvacant => simp [hvacant.free]
    | emptied hfile => simp [hfile]
    | device hdevice => simp [hdevice]
  · intro target
    cases h with
    | made hvacant => simp [hvacant.free]
    | emptied hfile => simp [hfile]
    | device hdevice => simp [hdevice]

variable (harrive : disk.arrive stoppingAtSlash path = .ok (.slot parent name false))

include harrive

/-- The path led to what was in the slot, if there was anything. -/
theorem find_before : disk.find path =
    match disk.get? (name :: parent) with
    | none => .error .notFound
    | some entry => .ok (name :: parent, entry) := by
  have hsettled : disk.Settled (.slot parent name false) := by
    intro target
    cases h with
    | made hvacant => simp [hvacant.free]
    | emptied hfile => simp [hfile]
    | device hdevice => simp [hdevice]
  have hfollowing := arrive_following (KeepsSteps.refl disk) hsettled harrive
  cases h with
  | made hvacant =>
    have hlook := lookUp_of_isStep hvacant.isName.toIsStep disk parent
    rw [if_pos hvacant.isName.fits, hvacant.free] at hlook
    simp only [find, findAt, hfollowing, hlook, hvacant.free, bind, Except.bind]
    rfl
  | emptied hfile =>
    rw [find, findAt_of_slot hfollowing hfile, hfile]
    rfl
  | device hdevice =>
    rw [find, findAt_of_slot hfollowing hdevice, hdevice]
    rfl

/-- The path leads to what is in the slot then. -/
theorem find_after {entry : Entry} (hentry : opened.get? (name :: parent) = some entry) :
    opened.find path = .ok (name :: parent, entry) := by
  have hsettled : opened.Settled (.slot parent name false) := by
    intro target htarget
    rcases h.there with ⟨-, hthere⟩ | ⟨-, hthere⟩
    · rw [hthere] at htarget
      cases htarget
    · rw [hthere] at htarget
      cases htarget
  rw [find, findAt_of_slot (arrive_following h.keepsSteps hsettled harrive) hentry]
  rfl

end OpenedSlot

/-- **A path leads to what was opened by it**, an empty file or a device. -/
theorem find_of_openForWriting {sink : Sink} (h : disk.openForWriting path = .ok (sink, opened))
    (hfind : opened.find path = .ok (place, entry)) :
    (sink = .file place 0 ∧ entry = .file .empty) ∨ (sink = .full ∧ entry = .fullDevice) := by
  obtain ⟨parent, name, harrive, hslot⟩ := openForWriting_eq_ok h
  rcases hslot.there with ⟨hsink, hthere⟩ | ⟨hsink, hthere⟩
  · rw [hslot.find_after harrive hthere] at hfind
    cases hfind
    exact Or.inl ⟨hsink, rfl⟩
  · rw [hslot.find_after harrive hthere] at hfind
    cases hfind
    exact Or.inr ⟨hsink, rfl⟩

/-! ## Writing

  A write goes to the file or to the device that was opened, wherever its path may lead by then. -/

/-- A write leaves the directory that relative paths start from. -/
theorem home_of_write {sink sink' : Sink} {bytes : ByteArray} {after : Disk}
    (h : disk.write sink bytes = .ok (sink', after)) : after.home = disk.home := by
  unfold write at h
  split at h
  · cases h
    rfl
  · split at h
    · cases h
      rfl
    · cases h
  · split at h
    · cases h
      exact home_setContent disk _ _
    · cases h
      rfl

/-- The full device takes nothing but nothing. -/
theorem eq_of_write_full {sink : Sink} {bytes : ByteArray} {after : Disk}
    (h : disk.write .full bytes = .ok (sink, after)) :
    sink = .full ∧ after = disk ∧ bytes.isEmpty = true := by
  simp only [write] at h
  split at h
  · rename_i hempty
    cases h
    exact ⟨rfl, rfl, hempty⟩
  · cases h

end Disk

end Thicket
