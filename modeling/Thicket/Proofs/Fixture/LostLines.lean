/-
  No success is told where lines are lost.

  A ledger that is closed with success has all the lines that it counted where they belong.  For a
  file this is its account; on the full device, which has room for nothing, it means that there
  were no lines (`finish_tells_taken`).

  1. **Closing after some lines** — a line that is refused half-way leaves pieces of it in the
     buffer, and a line that is taken may never leave it; either way the buffer is not empty, and
     then the device refuses to take it in the end (`finish_of_stuck`).
  2. **The ledger of a growing fixture** — a fixture adds lines while its tree grows.  Nothing but
     the adding of lines touches the ledger, so whatever adding keeps is kept by the growing,
     however it ends (`Ledger.KeptByAppend.fill`).
  3. **The growing** — a ledger on the full device, be it reached through a link or not, is stuck
     from its opening on, and so the call fails unless there was no line at all
     (`generate_on_fullDevice`).

  The theorem is about three parties: one line, a ledger with any lines, and a whole call.  In a
  call what stopped the growing comes before what goes wrong in closing, so the device is not
  always what is heard of; but success is not told in either case.
-/
import Thicket.Proofs.Contracts
import Thicket.Proofs.Fixture.Completion
import Thicket.Proofs.Ledger.Replacing

namespace Thicket

variable {σ : Type}

/-! ## Closing after some lines

  Closing writes out what is in the buffer.  It is then that a full device is noticed at last. -/

/-- What the path leads to has received the bytes: they are in the file, or there are none of them
    and it is the full device. -/
def Disk.HasReceived (disk : Disk) (path : String) (bytes : ByteArray) : Prop :=
  ∃ place entry, disk.find path = .ok (place, entry) ∧
    (entry = .file bytes ∨ entry = .fullDevice ∧ bytes = .empty)

namespace Ledger

variable {ledger last : Ledger} {disk opened after closed : Disk} {path : String} {place : Place}
  {entry : Entry} {lines taken : List (String × String)} {n : Nat}

theorem entries_of_append_error {file tag : String} {failure : Failure} {state : Ledger × Disk}
    (h : ledger.append disk file tag = (.error failure, state)) :
    state.1.entries = ledger.entries := by
  have hleaves := append_leaves ledger disk file tag
  rw [h] at hleaves
  exact hleaves.entries

/-- On the full device a ledger can be closed if no line was taken, and then nothing has
    changed.  A line that was taken is still in the buffer, and so is a piece of one that was
    refused half-way. -/
theorem finish_on_fullDevice (hcreate : create disk path = .ok (ledger, opened))
    (hfind : opened.find path = .ok (place, .fullDevice))
    (happend : ledger.appendAll opened lines = (taken, last, after))
    (hfinish : last.finish after = (.ok n, closed)) : n = 0 ∧ taken = [] ∧ closed = opened := by
  have hstuck := stuck_of_create hcreate hfind
  have hlast : last.Stuck := by
    have hall := hstuck.appendAll opened lines
    rw [happend] at hall
    exact hall
  have hleaves := appendAll_leaves ledger opened lines
  rw [happend] at hleaves
  rcases finish_of_stuck hlast after with ⟨hclosed, hnone⟩ | hrefused
  · rw [hfinish] at hclosed
    cases hclosed
    -- a line that was taken would be counted
    have hcount : last.entries = ledger.entries + taken.length := hleaves.entries
    have hlength : taken.length = 0 := by omega
    exact ⟨rfl, List.length_eq_zero_iff.1 hlength, (hleaves.full hstuck.1).2.1⟩
  · rw [hfinish] at hrefused
    cases hrefused

/-- **Closing with success tells the lines that were taken**, and they are where they belong. -/
theorem finish_tells_taken (hcreate : create disk path = .ok (ledger, opened))
    (hfind : opened.find path = .ok (place, entry))
    (happend : ledger.appendAll opened lines = (taken, last, after))
    (hfinish : last.finish after = (.ok n, closed)) :
    n = taken.length ∧ closed.HasReceived path (text taken).toUTF8 ∧
      (entry = .fullDevice → n = 0) := by
  obtain ⟨sink, hopen, -⟩ := create_eq_ok hcreate
  rcases Disk.find_of_openForWriting hopen hfind with ⟨-, rfl⟩ | ⟨-, rfl⟩
  · obtain ⟨state, hall, hholds⟩ := appendAll_of_file hcreate hfind lines
    obtain ⟨stored, hstored, hfile⟩ := hholds.finish
    rw [happend] at hall
    cases hall
    rw [hfinish] at hstored
    cases hstored
    exact ⟨rfl, ⟨place, _, hfile, Or.inl rfl⟩, nofun⟩
  · obtain ⟨rfl, rfl, rfl⟩ := finish_on_fullDevice hcreate hfind happend hfinish
    exact ⟨rfl, ⟨place, _, hfind, Or.inr ⟨rfl, rfl⟩⟩, fun _ => rfl⟩

/-- The ledger is stuck, and it was opened by the path. -/
def StuckAt (path : String) (ledger : Ledger) : Prop := ledger.Stuck ∧ ledger.path = path

/-- A stuck ledger is stuck after a line as well, be it taken or refused. -/
theorem StuckAt.append (h : ledger.StuckAt path) (disk : Disk) (file tag : String) :
    (ledger.append disk file tag).2.1.StuckAt path := by
  refine ⟨h.1.append disk file tag, ?_⟩
  have hleaves := append_leaves ledger disk file tag
  cases hresult : ledger.append disk file tag with
  | mk outcome state =>
    rw [hresult] at hleaves
    cases outcome with
    | error failure => exact (Leaves.path hleaves).trans h.2
    | ok _ => exact (Leaves.path hleaves).trans h.2

end Ledger

/-! ## The ledger of a growing fixture

  Keeping is a contract whose condition is the same before and after, and at an early end. -/

/-- However the step ends, what holds of the ledger before it holds of the ledger after it. -/
def KeepsLedger {α : Type} (good : Ledger → Prop) (step : Making σ α) : Prop :=
  Meets (fun plot => good plot.ledger) step (fun _ plot => good plot.ledger)
    fun _ plot => good plot.ledger

namespace KeepsLedger

variable {α β : Type} {good : Ledger → Prop}

/-- A step that does not touch the ledger. -/
theorem of_untouched {step : Making σ α}
    (h : ∀ plot, (stateLeft (step plot)).ledger = plot.ledger) : KeepsLedger good step := by
  intro plot hgood
  have hsame := h plot
  cases hresult : step plot with
  | ok a after =>
    rw [hresult] at hsame
    show good after.ledger
    exact hsame ▸ hgood
  | error stop after =>
    rw [hresult] at hsame
    show good after.ledger
    exact hsame ▸ hgood

theorem pure (a : α) : KeepsLedger (σ := σ) good (pure a) := of_untouched fun _ => rfl

theorem bind {step : Making σ α} {next : α → Making σ β} (h : KeepsLedger good step)
    (h' : ∀ a, KeepsLedger good (next a)) : KeepsLedger good (step >>= next) := Meets.bind h h'

theorem ite {condition : Prop} [Decidable condition] {yes no : Making σ α}
    (hyes : KeepsLedger good yes) (hno : KeepsLedger good no) :
    KeepsLedger good (if condition then yes else no) := meets_ite hyes hno

theorem retry {giveUp : Stop} {attempt : Making σ (Option α)} (h : KeepsLedger good attempt)
    (patience : Nat) : KeepsLedger good (Draw.retry giveUp attempt patience) := by
  apply Meets.retry
  · exact fun _ hgood => hgood
  · refine Meets.imp h ?_
    intro answer plot hgood
    cases answer with
    | none => exact hgood
    | some a => exact hgood

theorem times {step : Making σ Unit} (h : KeepsLedger good step) (count : Nat) :
    KeepsLedger good (Making.times count step) := by
  induction count with
  | zero => exact KeepsLedger.pure ()
  | succ count ih => exact h.bind fun _ => ih

theorem onWorld (act : Act σ α) : KeepsLedger good (Making.onWorld act) := by
  apply of_untouched
  intro plot
  rw [Making.onWorld]
  cases act plot.toWorld with
  | ok a world => rfl
  | error stop world => rfl

/-- An operation on the disk may change the ledger file, but not what the open ledger has counted,
    holds back or has seen refused. -/
theorem onDisk (task : Task) (path : String) (change : Disk → Except Cause Disk) :
    KeepsLedger (σ := σ) good (Making.onDisk task path change) := by
  apply of_untouched
  intro plot
  rw [Making.onDisk]
  cases change plot.disk with
  | ok disk => rfl
  | error cause => rfl

theorem nextIdentifier (codec : Codec) :
    KeepsLedger (σ := σ) good (Making.nextIdentifier codec) := by
  apply of_untouched
  intro plot
  rw [Making.nextIdentifier]
  split
  · rfl
  · rfl

end KeepsLedger

/-! ## The growing

  The program from a single line up to the tree.  Each lemma is the previous ones put together. -/

/-- Adding a line keeps what is true of the ledger, whether the line is taken or refused. -/
def Ledger.KeptByAppend (good : Ledger → Prop) : Prop :=
  ∀ (ledger : Ledger) (disk : Disk) (file tag : String),
    good ledger → good (ledger.append disk file tag).2.1

namespace Ledger.KeptByAppend

open KeepsLedger Generator

variable {good : Ledger → Prop} (hgood : Ledger.KeptByAppend good)

include hgood

theorem record (file tag : String) : KeepsLedger (σ := σ) good (Making.record file tag) := by
  intro plot hplot
  have happend := hgood plot.ledger plot.disk file tag hplot
  rw [Making.record]
  cases hresult : plot.ledger.append plot.disk file tag with
  | mk outcome state =>
    rw [hresult] at happend
    cases outcome with
    | ok _ => exact happend
    | error failure => exact happend

variable [WordSource σ] (generator : Generator)

/-- A tag is drawn, put into the pool and recorded, as often as the file has tags. -/
theorem tagTimes (file : String) (count : Nat) (taken : List String) :
    KeepsLedger (σ := σ) good (generator.tagTimes file count taken) := by
  have hpick : KeepsLedger (σ := σ) good generator.pickTag := by
    refine (onWorld _).bind fun sample => ?_
    refine ite ((of_untouched fun _ => rfl).bind fun plot => ?_) (nextIdentifier _)
    refine (onWorld _).bind fun choice => ?_
    cases choice with
    | none => exact nextIdentifier _
    | some tag => exact KeepsLedger.pure tag
  induction count generalizing taken with
  | zero => exact KeepsLedger.pure ()
  | succ count ih =>
    refine (KeepsLedger.retry (hpick.bind fun tag => KeepsLedger.pure _) _).bind fun tag => ?_
    refine (of_untouched fun _ => rfl).bind fun _ => ?_
    refine (hgood.record file tag).bind fun _ => ?_
    refine (of_untouched fun _ => rfl).bind fun plot => ?_
    exact ite (KeepsLedger.pure ()) (ih (tag :: taken))

theorem plantFile (directory : String) :
    KeepsLedger (σ := σ) good (generator.plantFile directory) := by
  refine (nextIdentifier _).bind fun identifier => ?_
  refine (onWorld _).bind fun length => ?_
  refine (onWorld _).bind fun payload => ?_
  refine (onDisk _ _ _).bind fun _ => ?_
  refine (of_untouched fun _ => rfl).bind fun _ => ?_
  exact (onWorld _).bind fun count => hgood.tagTimes generator _ _ _

theorem fillWith (directory : String) (depth : Nat) {slot : Making σ Unit}
    (hslot : KeepsLedger good slot) :
    KeepsLedger good (generator.fillWith directory depth slot) := by
  refine (onWorld _).bind fun slots => ?_
  refine (hslot.times _).bind fun _ => ?_
  refine (onWorld _).bind fun files => ?_
  exact ((hgood.plantFile generator directory).times _).bind fun _ => onWorld _

/-- **Growing keeps what adding a line keeps**, however it ends. -/
theorem fill (levels : Nat) (directory : String) :
    KeepsLedger (σ := σ) good (generator.fill levels directory) := by
  induction levels generalizing directory with
  | zero =>
    refine hgood.fillWith generator _ _ ?_
    exact (nextIdentifier _).bind fun _ => KeepsLedger.pure ()
  | succ levels ih =>
    refine hgood.fillWith generator _ _ ?_
    refine (nextIdentifier _).bind fun name => ?_
    refine (onDisk _ _ _).bind fun _ => ?_
    exact (of_untouched fun _ => rfl).bind fun _ => ih _

end Ledger.KeptByAppend

namespace Generator

variable [WordSource σ] {generator : Generator} {name target : String}
  {world opened : World σ} {ledger : Ledger} {place : Place}

/-- The growing of a call whose fixture is opened. -/
def growing (generator : Generator) (target : String) (opened : World σ) (ledger : Ledger) :
    EStateM.Result Stop (Plot σ) Unit :=
  generator.fill generator.settings.depth.toNat target (startPlot (announced target opened) ledger)

omit [WordSource σ] in
/-- The ledger of an opened fixture, if its path leads to the full device. -/
theorem stuckAt_of_openFixture
    (hopen : generator.openFixture name world = .ok (target, ledger) opened)
    (hdevice : opened.disk.find ledger.path = .ok (place, .fullDevice)) :
    ledger.StuckAt ledger.path := by
  obtain ⟨base, rooted, -, -, hfounded⟩ := openFixture_eq_ok hopen
  obtain ⟨-, -, hcreate, hpath⟩ := openLedger_eq_ok hfounded.ledger_opened
  rw [hpath] at hdevice
  exact ⟨Ledger.stuck_of_create hcreate hdevice, rfl⟩

/-- **A fixture whose ledger is on the full device.** What stops the growing is what the call
    fails for; if the growing comes to its end, there were no lines, or the ledger cannot be
    closed.  The ledger is stuck from its opening on, and the growing keeps that, whichever way
    it ends. -/
theorem generate_on_fullDevice
    (hopen : generator.openFixture name world = .ok (target, ledger) opened)
    (hdevice : opened.disk.find ledger.path = .ok (place, .fullDevice)) :
    match generator.growing target opened ledger with
    | .error stop _ => ∃ after, generator.generate name world = .error stop after
    | .ok () _ =>
      (∃ summary after, generator.generate name world = .ok summary after ∧
        summary.ledgerEntries = 0) ∨
      ∃ after, generator.generate name world =
        .error (.failed (.storage .flushLedger ledger.path .noSpace)) after := by
  -- being stuck is what adding a line keeps, so growing keeps it
  have hkept : Ledger.KeptByAppend (Ledger.StuckAt ledger.path) :=
    fun _ disk file tag hstuck => hstuck.append disk file tag
  have hgrown := hkept.fill generator generator.settings.depth.toNat target
    (startPlot (announced target opened) ledger) (stuckAt_of_openFixture hopen hdevice)
  rw [generate_of_opened hopen, growing]
  cases hfill : generator.fill generator.settings.depth.toNat target
      (startPlot (announced target opened) ledger) with
  | error stop plot => exact ⟨_, rfl⟩
  | ok _ plot =>
    rw [hfill] at hgrown
    obtain ⟨hstuck, hpath⟩ := hgrown
    rcases Ledger.finish_of_stuck hstuck plot.disk with ⟨hfinish, -⟩ | hfinish
    · left
      simp only [close, hfinish]
      exact ⟨_, _, rfl, rfl⟩
    · right
      simp only [close, hfinish, hpath]
      exact ⟨_, rfl⟩

/-- **No success is told where lines are lost.**  A line that is refused is not counted.  A ledger
    in a file or on the full device that is closed with success after any lines tells how many of
    them were taken, and they are where they belong; on the full device there are none.  And a
    call whose ledger is on the full device fails for what stopped its growing, or because its
    ledger cannot be closed, unless its ledger has no lines. -/
theorem no_success_for_lost_lines :
    (∀ (ledger : Ledger) (disk : Disk) (file tag : String) (failure : Failure)
      (state : Ledger × Disk), ledger.append disk file tag = (.error failure, state) →
        state.1.entries = ledger.entries) ∧
    (∀ (disk opened after closed : Disk) (path : String) (ledger last : Ledger) (place : Place)
      (entry : Entry) (lines taken : List (String × String)) (n : Nat),
      Ledger.create disk path = .ok (ledger, opened) → opened.find path = .ok (place, entry) →
      ledger.appendAll opened lines = (taken, last, after) →
      last.finish after = (.ok n, closed) →
        n = taken.length ∧ closed.HasReceived path (Ledger.text taken).toUTF8 ∧
          (entry = .fullDevice → n = 0)) ∧
    (∀ (generator : Generator) (name target : String) (world opened : World σ) (ledger : Ledger)
      (place : Place), generator.openFixture name world = .ok (target, ledger) opened →
      opened.disk.find ledger.path = .ok (place, .fullDevice) →
        match generator.growing target opened ledger with
        | .error stop _ => ∃ after, generator.generate name world = .error stop after
        | .ok () _ =>
          (∃ summary after, generator.generate name world = .ok summary after ∧
            summary.ledgerEntries = 0) ∨
          ∃ after, generator.generate name world =
            .error (.failed (.storage .flushLedger ledger.path .noSpace)) after) := by
  refine ⟨?_, ?_, ?_⟩
  · intro ledger disk file tag failure state happend
    exact Ledger.entries_of_append_error happend
  · intro disk opened after closed path ledger last place entry lines taken n
    exact Ledger.finish_tells_taken
  · intro generator name target world opened ledger place
    exact generate_on_fullDevice

end Generator

/-- The little world with the full device, and with a link to it where the ledger is to be. -/
def World.linked : World Steady :=
  { World.little with disk := Disk.withFullDevice.add [] "f.tag" (.link "/dev/full") }

/-- A name of so many letters. -/
def longName (length : Nat) : String := String.ofList (List.replicate length 'a')

theorem size_longName (length : Nat) : (longName length).toUTF8.size = length := by
  have hplain : ∀ c ∈ List.replicate length 'a', c.isAlphanum = true := by
    intro c hc
    rw [List.eq_of_mem_replicate hc]
    rfl
  have hsize := Codec.utf8ByteSize_ofList_of_isAlphanum hplain
  rw [List.length_replicate] at hsize
  exact hsize

namespace Generator

/-- On the full device a line that begins with a name as long as the buffer is refused, and then the
    ledger can be closed, with no lines.  Where its ledger is a link to the device the little
    generator grows its tree to the end, and then it fails. -/
theorem device_no_success_for_lost_lines :
    (∃ ledger opened failure state,
      Ledger.create Disk.withFullDevice "/dev/full" = .ok (ledger, opened) ∧
      opened.find "/dev/full" = .ok (["full", "dev"], .fullDevice) ∧
      ledger.append opened (longName 8192) "x" = (.error failure, state) ∧
      state.1.entries = ledger.entries ∧
      ledger.appendAll opened [(longName 8192, "x")] = ([], state) ∧
      state.1.finish state.2 = (.ok 0, opened) ∧
      opened.HasReceived "/dev/full" (Ledger.text []).toUTF8) ∧
    ∃ ledger opened plot,
      little.openFixture "f" World.linked = .ok ("/f", ledger) opened ∧
      opened.disk.find ledger.path = .ok (["full", "dev"], .fullDevice) ∧
      little.growing "/f" opened ledger = .ok () plot ∧
      ((∃ summary after, little.generate "f" World.linked = .ok summary after ∧
          summary.ledgerEntries = 0) ∨
        ∃ after, little.generate "f" World.linked =
          .error (.failed (.storage .flushLedger ledger.path .noSpace)) after) := by
  obtain ⟨hrefused, htells, hdevice⟩ := no_success_for_lost_lines (σ := Steady)
  constructor
  · obtain ⟨ledger, opened, hcreate, hfind⟩ : ∃ ledger opened,
        Ledger.create Disk.withFullDevice "/dev/full" = .ok (ledger, opened) ∧
          opened.find "/dev/full" = .ok (["full", "dev"], .fullDevice) :=
      Ledger.exists_of_create? (by decide +kernel)
    obtain ⟨sink, -, hledger⟩ := Ledger.create_eq_ok hcreate
    obtain ⟨hfull, -⟩ := Ledger.stuck_of_create hcreate hfind
    have hbuffer : ledger.buffer = .empty := by rw [hledger]
    have happend := Ledger.append_of_full hfull hbuffer opened (size_longName 8192).ge "x"
    have hall : ledger.appendAll opened [(longName 8192, "x")] = ([], ledger, opened) := by
      rw [Ledger.appendAll_cons_of_error happend]
      rfl
    have hfinish : ledger.finish opened = (.ok 0, opened) := by
      rw [Ledger.finish_of_full hfull, hbuffer, hledger]
      rfl
    have htold := htells _ _ _ _ _ _ _ _ _ _ _ _ hcreate hfind hall hfinish
    exact ⟨ledger, opened, _, _, hcreate, hfind, happend, hrefused _ _ _ _ _ _ happend, hall,
      hfinish, htold.2.1⟩
  · have hshown : (match little.openFixture "f" World.linked with
        | .ok (target, ledger) opened =>
          some (target, (opened.disk.find ledger.path).toOption,
            answer? (little.growing target opened ledger))
        | .error _ _ => none) = some ("/f", some (["full", "dev"], .fullDevice), some ()) := by
      decide +kernel
    cases hopen : little.openFixture "f" World.linked with
    | error stop opened =>
      rw [hopen] at hshown
      cases hshown
    | ok opening opened =>
      obtain ⟨target, ledger⟩ := opening
      rw [hopen] at hshown
      obtain ⟨rfl, hsome⟩ := Prod.mk.inj (Option.some.inj hshown)
      obtain ⟨hfound, hanswer⟩ := Prod.mk.inj hsome
      have hfind : opened.disk.find ledger.path = .ok (["full", "dev"], .fullDevice) := by
        cases hresult : opened.disk.find ledger.path with
        | error cause => simp [Except.toOption, hresult] at hfound
        | ok found => simpa [Except.toOption, hresult] using hfound
      obtain ⟨plot, hgrowing⟩ := exists_of_answer? hanswer
      have hcall := hdevice _ _ _ _ _ _ _ hopen hfind
      rw [hgrowing] at hcall
      exact ⟨ledger, opened, plot, rfl, hfind, hgrowing, hcall⟩

end Generator

end Thicket
