/-
  What opening a ledger replaces.

  Whether there is something at the path is asked first and the file is opened then, each with a
  walk of its own.  The walks agree: what an opening finds is what the path led to
  (`openedPath_of_open`), and what can be written to at the end of a path is opened
  (`openForWriting_of_find`).  So there is a warning for whatever is replaced, and nothing is
  replaced but the content of one file, or nothing was there and one file is new
  (`openLedger_warns_of_what_it_replaces`).

  1. **The disk** — `OpenedPath` has the three ways in which an opening can succeed, each with
     what the path led to before: a file, the device, or nothing.  What has changed is read off by
     cases.
  2. **The reports** — they are decided by the first walk alone, and are there whether or not the
     ledger can be opened then.

  The path may be any: relative or not, with steps up, through links, and with a link at its end.
-/
import Thicket.Generator
import Thicket.Proofs.Ledger.Appending

namespace Thicket

namespace Disk

/-! ## What an opening does

  The path leads to one thing before, so of the three ways only one is open to it. -/

/-- The second disk has an entry of its own at one place, and is the first one everywhere else. -/
structure DiffersAt (before after : Disk) (place : Place) (entry : Entry) : Prop where
  home : after.home = before.home
  there : after.get? place = some entry
  elsewhere : ∀ other, other ≠ place → after.get? other = before.get? other

/-- What an opening has made of a disk, by what the path led to. -/
inductive OpenedPath (disk : Disk) (path : String) (opened : Disk) : Prop
  | emptied {place : Place} {content : ByteArray}
    (hfind : disk.find path = .ok (place, .file content))
    (hdiffers : disk.DiffersAt opened place (.file .empty))
  | device {place : Place} (hfind : disk.find path = .ok (place, .fullDevice))
    (hsame : opened = disk)
  | made {place : Place} (hfind : disk.find path = .error .notFound)
    (hfree : disk.get? place = none) (hfound : opened.find path = .ok (place, .file .empty))
    (hdiffers : disk.DiffersAt opened place (.file .empty))

/-- **What a path led to decides what opening it does.** -/
theorem openedPath_of_open {disk opened : Disk} {path : String} {sink : Sink}
    (h : disk.openForWriting path = .ok (sink, opened)) : disk.OpenedPath path opened := by
  obtain ⟨parent, name, harrive, hslot⟩ := openForWriting_eq_ok h
  have hbefore := hslot.find_before harrive
  have hhome := hslot.keepsSteps.home
  have helsewhere : ∀ other, other ≠ name :: parent → opened.get? other = disk.get? other :=
    fun _ hother => hslot.elsewhere hother
  cases hslot with
  | made hvacant =>
    have hthere : (disk.add parent name (.file .empty)).get? (name :: parent) =
        some (.file .empty) := by
      rw [hvacant.get?_add, if_pos rfl]
    have hfound := (OpenedSlot.made hvacant).find_after harrive hthere
    rw [hvacant.free] at hbefore
    exact .made hbefore hvacant.free hfound ⟨hhome, hthere, helsewhere⟩
  | emptied hfile =>
    have hthere : (disk.setContent (name :: parent) .empty).get? (name :: parent) =
        some (.file .empty) := by
      rw [get?_setContent hfile, if_pos rfl]
    rw [hfile] at hbefore
    exact .emptied hbefore ⟨hhome, hthere, helsewhere⟩
  | device hdevice =>
    rw [hdevice] at hbefore
    exact .device hbefore rfl

namespace OpenedPath

variable {disk opened : Disk} {path : String} {place : Place} {entry : Entry}
  (h : disk.OpenedPath path opened)

include h

/-- A file that the path led to was emptied. -/
theorem differsAt_of_file {content : ByteArray}
    (hfind : disk.find path = .ok (place, .file content)) :
    disk.DiffersAt opened place (.file .empty) := by
  cases h with
  | emptied hbefore hdiffers =>
    cases hfind.symm.trans hbefore
    exact hdiffers
  | device hbefore _ => cases hfind.symm.trans hbefore
  | made hbefore _ _ _ => cases hfind.symm.trans hbefore

/-- What is no file is left alone: there is nothing to empty. -/
theorem eq_of_not_file (hfind : disk.find path = .ok (place, entry))
    (hfile : ∀ content, entry ≠ .file content) : opened = disk := by
  cases h with
  | emptied hbefore _ =>
    cases hfind.symm.trans hbefore
    exact absurd rfl (hfile _)
  | device _ hsame => exact hsame
  | made hbefore _ _ _ => cases hfind.symm.trans hbefore

/-- Where the path led to nothing there is a new file. -/
theorem exists_made {cause : Cause} (hfind : disk.find path = .error cause) :
    ∃ place, disk.get? place = none ∧ opened.find path = .ok (place, .file .empty) ∧
      disk.DiffersAt opened place (.file .empty) := by
  cases h with
  | emptied hbefore _ => cases hfind.symm.trans hbefore
  | device hbefore _ => cases hfind.symm.trans hbefore
  | made _ hfree hfound hdiffers => exact ⟨_, hfree, hfound, hdiffers⟩

/-- **Whatever was there and has changed** is the file that the path led to. -/
theorem find_of_changed (hentry : disk.get? place = some entry)
    (hchanged : opened.get? place ≠ some entry) :
    (∃ content, entry = .file content) ∧ disk.find path = .ok (place, entry) ∧
      opened.get? place = some (.file .empty) := by
  cases h with
  | @emptied there content hfind hdiffers =>
    by_cases hplace : place = there
    · subst hplace
      obtain ⟨hthere, -⟩ := get?_of_findAt (fun _ => rfl) hfind
      cases hentry.symm.trans hthere
      exact ⟨⟨content, rfl⟩, hfind, hdiffers.there⟩
    · rw [hdiffers.elsewhere place hplace] at hchanged
      exact absurd hentry hchanged
  | device _ hsame =>
    rw [hsame] at hchanged
    exact absurd hentry hchanged
  | @made there _ hfree _ hdiffers =>
    -- what was there is not where the new file is
    have hplace : place ≠ there := by
      rintro rfl
      cases hentry.symm.trans hfree
    rw [hdiffers.elsewhere place hplace] at hchanged
    exact absurd hentry hchanged

end OpenedPath

end Disk

namespace Ledger

/-- There is one warning where the path leads to something. -/
theorem openingNotices_of_find {disk : Disk} {path : String} {place : Place} {entry : Entry}
    (h : disk.find path = .ok (place, entry)) :
    openingNotices disk path = [.ledgerReplaced path] := by
  rw [openingNotices, Disk.pathExists, h]
  rfl

/-- There is none where it leads to nothing. -/
theorem openingNotices_of_not_find {disk : Disk} {path : String} {cause : Cause}
    (h : disk.find path = .error cause) : openingNotices disk path = [] := by
  rw [openingNotices, Disk.pathExists, h]
  rfl

end Ledger

namespace Generator

variable {σ : Type} {path : String} {world after opened : World σ} {ledger : Ledger}

/-! ## What opening a ledger does

  The program around the opening of the file: the look before, the report, and the failure. -/

/-- A ledger that was opened, and the world with its file. -/
theorem openLedger_eq_ok (h : openLedger path world = .ok ledger opened) :
    ∃ sink, world.disk.openForWriting path = .ok (sink, opened.disk) ∧
      Ledger.create world.disk path = .ok (ledger, opened.disk) ∧ ledger.path = path := by
  rw [openLedger] at h
  cases hcreate : Ledger.create world.disk path with
  | error failure =>
    rw [hcreate] at h
    cases h
  | ok made =>
    rw [hcreate] at h
    cases h
    obtain ⟨sink, hopen, hledger⟩ := Ledger.create_eq_ok hcreate
    exact ⟨sink, hopen, rfl, by rw [hledger]⟩

/-- A ledger that is not opened leaves the disk as it was. -/
theorem openLedger_error {stop : Stop} (h : openLedger path world = .error stop after) :
    after.disk = world.disk := by
  rw [openLedger] at h
  split at h
  · cases h
  · cases h
    rfl

/-- The reports are those of the look before, however the opening ends. -/
theorem notices_of_openLedger (path : String) (world : World σ) :
    (stateLeft (openLedger path world)).notices =
      world.notices ++ (Ledger.openingNotices world.disk path).toArray := by
  rw [openLedger]
  split <;> rfl

/-- However it ends, the disk is as it was or the file at the end of the path is opened. -/
theorem disk_of_openLedger (path : String) (world : World σ) :
    (stateLeft (openLedger path world)).disk = world.disk ∨
      world.disk.OpenedPath path (stateLeft (openLedger path world)).disk := by
  cases hopen : openLedger path world with
  | ok ledger opened =>
    obtain ⟨sink, hsink, -, -⟩ := openLedger_eq_ok hopen
    exact Or.inr (Disk.openedPath_of_open hsink)
  | error stop after => exact Or.inl (openLedger_error hopen)

/-- A ledger is opened in a file or a device that its path leads to. -/
theorem openLedger_of_find {place : Place} {entry : Entry}
    (hfind : world.disk.find path = .ok (place, entry)) (hentry : entry ≠ .directory) :
    ∃ ledger opened, openLedger path world = .ok ledger opened := by
  obtain ⟨sink, disk, hopen⟩ := Disk.openForWriting_of_find hfind hentry
  simp only [openLedger, Ledger.create, hopen]
  exact ⟨_, _, rfl⟩

/-! ## Warnings

  One warning or none. -/

/-- Where the path leads to something there is one warning. -/
theorem notices_of_find {place : Place} {entry : Entry}
    (hfind : world.disk.find path = .ok (place, entry)) :
    (stateLeft (openLedger path world)).notices = world.notices.push (.ledgerReplaced path) := by
  rw [notices_of_openLedger, Ledger.openingNotices_of_find hfind]
  rfl

theorem notices_of_not_find {cause : Cause} (hfind : world.disk.find path = .error cause) :
    (stateLeft (openLedger path world)).notices = world.notices := by
  rw [notices_of_openLedger, Ledger.openingNotices_of_not_find hfind]
  exact Array.append_empty

/-- **Nothing is replaced without a warning.**  If the path leads to a file, the file is emptied,
    and nothing else changes.  Whatever the path leads to, there is one warning, also where the
    ledger cannot be opened; and if it is no file, the disk stays as it is.  If the path leads to
    nothing, there is no warning, and a ledger that is opened is an empty file at the end of the
    path, the only change, where there was nothing.  If no ledger is opened, the disk stays as it
    is.  So whatever was there and is no more what it was is the file that the path led to, with a
    warning for it. -/
theorem openLedger_warns_of_what_it_replaces (path : String) (world : World σ) :
    (∀ place content, world.disk.find path = .ok (place, .file content) →
      ∃ ledger opened, openLedger path world = .ok ledger opened ∧
        world.disk.DiffersAt opened.disk place (.file .empty)) ∧
    (∀ place entry, world.disk.find path = .ok (place, entry) →
      (stateLeft (openLedger path world)).notices = world.notices.push (.ledgerReplaced path) ∧
      ((∀ content, entry ≠ .file content) →
        (stateLeft (openLedger path world)).disk = world.disk)) ∧
    (∀ cause, world.disk.find path = .error cause →
      (stateLeft (openLedger path world)).notices = world.notices ∧
      ∀ ledger opened, openLedger path world = .ok ledger opened →
        ∃ place, world.disk.get? place = none ∧
          opened.disk.find path = .ok (place, .file .empty) ∧
          world.disk.DiffersAt opened.disk place (.file .empty)) ∧
    (∀ stop after, openLedger path world = .error stop after → after.disk = world.disk) ∧
    ∀ place entry, world.disk.get? place = some entry →
      (stateLeft (openLedger path world)).disk.get? place ≠ some entry →
        (∃ content, entry = .file content) ∧ world.disk.find path = .ok (place, entry) ∧
        (stateLeft (openLedger path world)).disk.get? place = some (.file .empty) ∧
        (stateLeft (openLedger path world)).notices =
          world.notices.push (.ledgerReplaced path) := by
  refine ⟨?_, ?_, ?_, fun _ _ => openLedger_error, ?_⟩
  · intro place content hfind
    -- a file is emptied
    obtain ⟨ledger, opened, hopen⟩ := openLedger_of_find hfind nofun
    obtain ⟨sink, hsink, -, -⟩ := openLedger_eq_ok hopen
    exact ⟨ledger, opened, hopen, (Disk.openedPath_of_open hsink).differsAt_of_file hfind⟩
  · intro place entry hfind
    refine ⟨notices_of_find hfind, fun hfile => ?_⟩
    rcases disk_of_openLedger path world with hsame | hopened
    · exact hsame
    · exact hopened.eq_of_not_file hfind hfile
  · intro cause hfind
    refine ⟨notices_of_not_find hfind, ?_⟩
    intro ledger opened hopen
    obtain ⟨sink, hsink, -, -⟩ := openLedger_eq_ok hopen
    exact (Disk.openedPath_of_open hsink).exists_made hfind
  · intro place entry hentry hchanged
    rcases disk_of_openLedger path world with hsame | hopened
    · rw [hsame] at hchanged
      exact absurd hentry hchanged
    · -- the only entry that can have changed is the one the path leads to
      obtain ⟨hfile, hfind, hempty⟩ := hopened.find_of_changed hentry hchanged
      exact ⟨hfile, hfind, hempty, notices_of_find hfind⟩

/-- A disk with a file, a link to it, a link to a file that is not there, and a directory. -/
def assorted : World Unit where
  source := ()
  disk :=
    (((Disk.empty.add [] "old" (.file "stale".toUTF8)).add [] "link" (.link "old")).add [] "loose"
      (.link "new")).add [] "d" .directory
  notices := #[]

/-- Through the one link the old file is emptied with a warning, through the other one a new file
    is made without; for a directory there is a warning only; and nothing happens where a
    directory is missing. -/
theorem assorted_warns_of_what_it_replaces :
    (∃ ledger opened, openLedger "link" assorted = .ok ledger opened ∧
      assorted.disk.DiffersAt opened.disk ["old"] (.file .empty)) ∧
    (stateLeft (openLedger "link" assorted)).notices =
      assorted.notices.push (.ledgerReplaced "link") ∧
    (stateLeft (openLedger "d" assorted)).notices =
      assorted.notices.push (.ledgerReplaced "d") ∧
    (stateLeft (openLedger "d" assorted)).disk = assorted.disk ∧
    (∃ ledger opened, openLedger "loose" assorted = .ok ledger opened ∧
      (stateLeft (openLedger "loose" assorted)).notices = assorted.notices ∧
      ∃ place, assorted.disk.get? place = none ∧
        opened.disk.find "loose" = .ok (place, .file .empty) ∧
        assorted.disk.DiffersAt opened.disk place (.file .empty)) ∧
    (∃ after, openLedger "nope/x" assorted =
        .error (.failed (.storage .createLedger "nope/x" .notFound)) after ∧
      after.disk = assorted.disk) ∧
    assorted.disk.get? ["old"] = some (.file "stale".toUTF8) ∧
    (stateLeft (openLedger "old" assorted)).disk.get? ["old"] = some (.file .empty) := by
  have hlink : assorted.disk.find "link" = .ok (["old"], .file "stale".toUTF8) := by decide +kernel
  have hloose : assorted.disk.find "loose" = .error .notFound := by decide +kernel
  have hdirectory : assorted.disk.find "d" = .ok (["d"], .directory) := by decide +kernel
  have hold : assorted.disk.get? ["old"] = some (.file "stale".toUTF8) := by decide +kernel
  have hchanged : (stateLeft (openLedger "old" assorted)).disk.get? ["old"] ≠
      some (.file "stale".toUTF8) := by
    decide +kernel
  have hmade : ∃ ledger, answer? (openLedger "loose" assorted) = some ledger :=
    Option.isSome_iff_exists.1 (by decide +kernel)
  have hrefused : (refusal? (openLedger "nope/x" assorted)).map (fun refusal => (refusal.1, ())) =
      some (.failed (.storage .createLedger "nope/x" .notFound), ()) := by
    decide +kernel
  obtain ⟨hfile, hfound, -, -, -⟩ := openLedger_warns_of_what_it_replaces "link" assorted
  obtain ⟨-, hfound', -, -, -⟩ := openLedger_warns_of_what_it_replaces "d" assorted
  obtain ⟨-, -, hmissing, -, -⟩ := openLedger_warns_of_what_it_replaces "loose" assorted
  obtain ⟨-, -, -, hspared, -⟩ := openLedger_warns_of_what_it_replaces "nope/x" assorted
  obtain ⟨-, -, -, -, hreplaced⟩ := openLedger_warns_of_what_it_replaces "old" assorted
  obtain ⟨ledger, hledger⟩ := hmade
  obtain ⟨opened, hopened⟩ := exists_of_answer? hledger
  obtain ⟨after, hrefusal, -⟩ := exists_of_refusal? (fun _ => ()) hrefused
  obtain ⟨hquiet, hnew⟩ := hmissing _ hloose
  exact ⟨hfile _ _ hlink, (hfound _ _ hlink).1, (hfound' _ _ hdirectory).1,
    (hfound' _ _ hdirectory).2 nofun, ⟨ledger, opened, hopened, hquiet, hnew _ _ hopened⟩,
    ⟨after, hrefusal, hspared _ _ hrefusal⟩, hold, (hreplaced _ _ hold hchanged).2.2.1⟩

end Generator

end Thicket
