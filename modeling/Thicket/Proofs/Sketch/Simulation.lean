/-
  A fixture grows on a disk as it does in its sketch.

  `Realises` relates a plot to a sketch: source, counter and pool are the same, the entries below
  the fixture directory and the account of the ledger are what the history says, and everything
  else on the disk is as it was.  Every program keeps to its sketch (`Simulates`): it ends with
  the same answer, or at the same halt, in related states.  The one way out is a ledger on the
  full device, which may refuse a line at any time.

  1. **Programs in general** — the relation goes through sequences, repetitions and redrawing.  A
     program may use that its directory is there, and that stays so, as a history only grows
     (`Simulates.bind`).
  2. **Steps without a disk** change the source, the counter or the pool on both sides alike.
  3. **Steps on the disk** are two: where an entry is made (`make_simulates`) and where a line is
     recorded (`record_simulates`).  For the one the disk has to answer as the history does, place
     by place; for the other the account of the ledger grows by the line.

  That every program keeps to its sketch is put together in `Thicket.Proofs.Sketch.Programs`.
  From there on a fixture's tree and ledger are known by its history, and the disk is not looked
  at again.
-/
import Thicket.Proofs.Codec.Symbols
import Thicket.Proofs.Disk.AtPlace
import Thicket.Proofs.Ledger.Account
import Thicket.Proofs.Random.Gives
import Thicket.Proofs.Sketch.Basic

namespace Thicket

variable {σ : Type}

/-! ## The relation

  What the ledger has received may still be in its buffer, so the relation speaks of its account
  and not of its file. -/

/-- What a fixture grows on: its directory and its ledger's file, as they are at the start.  The
    ledger is not inside the directory, so the two do not get in each other's way. -/
structure Ground where
  /-- The place of the fixture directory. -/
  top : Place
  disk : Disk
  notices : Array Notice
  ledgerPath : String
  /-- The place of the ledger's file; a device has none. -/
  ledgerPlace : Option Place
  ledger_outside : ∀ place, ledgerPlace = some place → ¬ top <:+ place

/-- No entry can be made at the place, for its path is too long. -/
def Ground.blocked (ground : Ground) (place : Place) : Bool :=
  !Path.isSpellable (place ++ ground.top)

/-- The plot is what the sketch describes.

    The entries below the fixture directory are those of the history, and `elsewhere` says that
    no other place has changed but the ledger's.  Of the ledger the account is known, that is
    what its file has received together with what is still in its buffer. -/
structure Realises (ground : Ground) (plot : Plot σ) (sketch : Sketch σ) : Prop where
  source : plot.source = sketch.source
  counter : plot.counter = sketch.counter
  pool : plot.pool = sketch.pool
  tree : ∀ place, plot.disk.get? (place ++ ground.top) = sketch.history.entryAt place
  elsewhere : ∀ place, ¬ ground.top <:+ place → some place ≠ ground.ledgerPlace →
    plot.disk.get? place = ground.disk.get? place
  atEnd : plot.ledger.AtEnd plot.disk
  account : plot.ledger.account plot.disk = (Ledger.text sketch.history.lines).toUTF8
  entries : plot.ledger.entries = sketch.history.lines.length
  ledgerPath : plot.ledger.path = ground.ledgerPath
  ledgerPlace : plot.ledger.place? = ground.ledgerPlace
  directories : plot.directories = sketch.history.directories + 1
  files : plot.files = sketch.history.files
  payloadBytes : plot.payloadBytes = sketch.history.payloadBytes
  notices : plot.notices = ground.notices ++ (sketch.history.notices ground.top).toArray

/-- The fixture directory is there, and outside it only the ledger has changed. -/
structure Ground.Spares (ground : Ground) (disk : Disk) : Prop where
  top : disk.get? ground.top = some .directory
  elsewhere : ∀ place, ¬ ground.top <:+ place → some place ≠ ground.ledgerPlace →
    disk.get? place = ground.disk.get? place

/-- Whatever a plot realises, it has kept to its ground. -/
theorem Realises.spares {ground : Ground} {plot : Plot σ} {sketch : Sketch σ}
    (h : Realises ground plot sketch) : ground.Spares plot.disk where
  top := by
    have htop := h.tree []
    rw [History.entryAt_nil] at htop
    exact htop
  elsewhere := h.elsewhere

/-- How a program ended that is at work on a plot, and how its sketch did.  If the ledger is a
    file both end alike, in related states.  On the full device the program may end where the
    sketch goes on; all that is known then is that the disk was spared. -/
def Matches {α : Type} (ground : Ground) (before : History) :
    EStateM.Result Stop (Plot σ) α → EStateM.Result Halt (Sketch σ) α → Prop
  | .ok a plot, result =>
    ∃ sketch, result = .ok a sketch ∧ Realises ground plot sketch ∧ before <:+ sketch.history
  | .error stop plot, result =>
    (ground.ledgerPlace = none ∧ plot.ledger.sink = .full ∧ ground.Spares plot.disk) ∨
    ∃ halt sketch, result = .error halt sketch ∧ stop = halt.stop ground.top ∧
      Realises ground plot sketch ∧ before <:+ sketch.history

/-- A program keeps to its sketch while there is a directory at the place.  Whatever state it is
    started in, its end matches that of the sketch in any related state. -/
def Simulates {α : Type} (ground : Ground) (place : Place) (program : Making σ α)
    (sketched : Sketching σ α) : Prop :=
  ∀ plot sketch, Realises ground plot sketch →
    sketch.history.entryAt place = some .directory →
    Matches ground sketch.history (program plot) (sketched sketch)

variable {ground : Ground} {place : Place} {plot : Plot σ} {sketch : Sketch σ}

/-! ## Programs in general

  An end matches an end with the same answer, and a stop matches the halt that shows as it. -/

/-- A history that has grown has grown from every history before. -/
theorem Matches.of_suffix {α : Type} {earlier later : History} (hsuffix : earlier <:+ later)
    {result : EStateM.Result Stop (Plot σ) α} {result' : EStateM.Result Halt (Sketch σ) α}
    (h : Matches ground later result result') : Matches ground earlier result result' := by
  cases result with
  | ok a plot =>
    obtain ⟨sketch, hresult, hreal, hlater⟩ := h
    exact ⟨sketch, hresult, hreal, hsuffix.trans hlater⟩
  | error stop plot =>
    rcases h with hfull | ⟨halt, sketch, hresult, hstop, hreal, hlater⟩
    · exact Or.inl hfull
    · exact Or.inr ⟨halt, sketch, hresult, hstop, hreal, hsuffix.trans hlater⟩

/-- **On a ground with a file for its ledger a program fails as its sketch does.** -/
theorem Matches.eq_error {α : Type} {before : History} {stop : Stop} {file : Place}
    {result' : EStateM.Result Halt (Sketch σ) α}
    (h : Matches ground before (.error stop plot) result')
    (hfile : ground.ledgerPlace = some file) :
    ∃ halt sketch, result' = .error halt sketch ∧ stop = halt.stop ground.top ∧
      Realises ground plot sketch := by
  rcases h with ⟨hnone, -⟩ | ⟨halt, sketch, hresult, hstop, hreal, -⟩
  · -- the full device is no file
    rw [hfile] at hnone
    cases hnone
  · exact ⟨halt, sketch, hresult, hstop, hreal⟩

/-- One program after another.  The second may use all that is known of the first one's end. -/
theorem Matches.bind {α β : Type} {program : Making σ α} {sketched : Sketching σ α}
    {next : α → Making σ β} {sketchedNext : α → Sketching σ β}
    (h : Matches ground sketch.history (program plot) (sketched sketch))
    (h' : ∀ a plot' sketch', sketched sketch = .ok a sketch' → Realises ground plot' sketch' →
      sketch.history <:+ sketch'.history →
      Matches ground sketch'.history (next a plot') (sketchedNext a sketch')) :
    Matches ground sketch.history ((program >>= next) plot)
      ((sketched >>= sketchedNext) sketch) := by
  cases hprogram : program plot with
  | ok a plot' =>
    rw [hprogram] at h
    obtain ⟨sketch', hsketched, hreal, hsuffix⟩ := h
    rw [run_bind_of_ok hprogram, run_bind_of_ok hsketched]
    exact (h' a plot' sketch' hsketched hreal hsuffix).of_suffix hsuffix
  | error stop plot' =>
    rw [hprogram] at h
    rw [run_bind_of_error hprogram]
    rcases h with hfull | ⟨halt, sketch', hsketched, hstop, hreal, hsuffix⟩
    · exact Or.inl hfull
    · rw [run_bind_of_error hsketched]
      exact Or.inr ⟨halt, sketch', rfl, hstop, hreal, hsuffix⟩

/-- One program after another; the second may use that the first gives what it is given. -/
theorem Simulates.bind {α β : Type} {program : Making σ α} {sketched : Sketching σ α}
    {next : α → Making σ β} {sketchedNext : α → Sketching σ β}
    (h : Simulates ground place program sketched)
    (h' : ∀ a, (∃ before after, sketched before = .ok a after) →
      Simulates ground place (next a) (sketchedNext a)) :
    Simulates ground place (program >>= next) (sketched >>= sketchedNext) := by
  intro plot sketch hreal hplace
  refine Matches.bind (h plot sketch hreal hplace) ?_
  intro a plot' sketch' hsketched hreal' hsuffix
  exact h' a ⟨sketch, sketch', hsketched⟩ plot' sketch' hreal'
    (History.entryAt_of_suffix hsuffix hplace)

/-- All names on the way to a directory of the fixture can be assumed to be names, for the
    directory is there, and on a disk what has an entry has names that a path can step to. -/
theorem Simulates.of_isStep {α : Type} {program : Making σ α} {sketched : Sketching σ α}
    (h : (∀ step ∈ place ++ ground.top, Path.IsStep step) →
      Simulates ground place program sketched) : Simulates ground place program sketched := by
  intro plot sketch hreal hplace
  have hexists : plot.disk.get? (place ++ ground.top) ≠ none := by
    rw [hreal.tree, hplace]
    exact Option.some_ne_none _
  exact h (Disk.isStep_of_mem hexists) plot sketch hreal hplace

theorem Simulates.pure {α : Type} (a : α) :
    Simulates (σ := σ) ground place (pure a) (pure a) := by
  intro plot sketch hreal _
  exact ⟨sketch, rfl, hreal, List.suffix_rfl⟩

/-- A look at the state shows the same pool. -/
theorem Simulates.get {α : Type} {next : Plot σ → Making σ α}
    {sketchedNext : Sketch σ → Sketching σ α}
    (h : ∀ plot sketch, plot.pool = sketch.pool →
      Simulates ground place (next plot) (sketchedNext sketch)) :
    Simulates ground place (get >>= next) (get >>= sketchedNext) := by
  intro plot sketch hreal hplace
  exact h plot sketch hreal.pool plot sketch hreal hplace

theorem Simulates.ite {α : Type} {condition : Prop} [Decidable condition] {yes no : Making σ α}
    {sketchedYes sketchedNo : Sketching σ α} (hyes : Simulates ground place yes sketchedYes)
    (hno : Simulates ground place no sketchedNo) :
    Simulates ground place (if condition then yes else no)
      (if condition then sketchedYes else sketchedNo) := by
  by_cases h : condition
  · rw [if_pos h, if_pos h]
    exact hyes
  · rw [if_neg h, if_neg h]
    exact hno

theorem Simulates.times {step : Making σ Unit} {sketchedStep : Sketching σ Unit}
    (h : Simulates ground place step sketchedStep) (count : Nat) :
    Simulates ground place (Making.times count step) (Making.times count sketchedStep) := by
  induction count with
  | zero => exact Simulates.pure ()
  | succ count ih => exact h.bind fun _ _ => ih

/-- Both give up after equally many attempts, and with the same mishap. -/
theorem Simulates.retry {α : Type} {attempt : Making σ (Option α)}
    {sketchedAttempt : Sketching σ (Option α)}
    (h : Simulates ground place attempt sketchedAttempt) (patience : Nat) :
    Simulates ground place (Draw.retry (.mishap .stalled) attempt patience)
      (Draw.retry (.mishap .stalled) sketchedAttempt patience) := by
  induction patience with
  | zero =>
    intro plot sketch hreal _
    exact Or.inr ⟨.mishap .stalled, sketch, rfl, rfl, hreal, List.suffix_rfl⟩
  | succ patience ih =>
    refine h.bind ?_
    intro answer _
    cases answer with
    | none => exact ih
    | some a => exact Simulates.pure a

/-! ## Steps without a disk

  Each has a program that looks at the sketch's own field only. -/

/-- From the same source comes the same draw, and the same source is left. -/
theorem draw_simulates {α : Type} (draw : Draw σ α) :
    Simulates ground place (Making.draw draw) (Sketching.draw draw) := by
  intro plot sketch hreal _
  rw [Sketching.draw]
  cases hdraw : draw sketch.source with
  | ok a source =>
    have hprogram : Making.draw draw plot = .ok a { plot with source } := by
      rw [Making.draw, Making.onWorld, Act.draw, hreal.source, hdraw]
    rw [hprogram]
    exact ⟨_, rfl, { hreal with source := rfl }, List.suffix_rfl⟩
  | error reason source =>
    have hprogram : Making.draw draw plot = .error (.mishap reason) { plot with source } := by
      rw [Making.draw, Making.onWorld, Act.draw, hreal.source, hdraw]
    rw [hprogram]
    exact Or.inr ⟨.mishap reason, _, rfl, rfl, { hreal with source := rfl }, List.suffix_rfl⟩

theorem nextIdentifier_simulates (codec : Codec) :
    Simulates (σ := σ) ground place (Making.nextIdentifier codec)
      (Sketching.nextIdentifier codec) := by
  intro plot sketch hreal _
  rw [Making.nextIdentifier, Sketching.nextIdentifier, hreal.counter]
  by_cases hlast : sketch.counter + 1 = 0
  · rw [if_pos hlast, if_pos hlast]
    exact Or.inr ⟨.mishap .stalled, sketch, rfl, rfl, hreal, List.suffix_rfl⟩
  · rw [if_neg hlast, if_neg hlast]
    exact ⟨_, rfl, { hreal with counter := rfl }, List.suffix_rfl⟩

/-- What is given as an identifier is the identifier of a counter. -/
theorem exists_counter_of_nextIdentifier {codec : Codec} {identifier : String}
    (h : ∃ before after : Sketch σ,
      Sketching.nextIdentifier codec before = .ok identifier after) :
    ∃ counter, identifier = codec.encode counter := by
  obtain ⟨before, after, h⟩ := h
  rw [Sketching.nextIdentifier] at h
  split at h
  · cases h
  · cases h
    exact ⟨_, rfl⟩

theorem useTag_simulates (tag : String) :
    Simulates (σ := σ) ground place (Making.useTag tag) (Sketching.useTag tag) := by
  intro plot sketch hreal _
  refine ⟨{ sketch with pool := (sketch.pool.insert tag).2 }, rfl, ?_, List.suffix_rfl⟩
  exact { hreal with pool := by rw [← hreal.pool] }

/-- An event that makes no entry and adds no line is reported, if at all. -/
theorem Realises.note (hreal : Realises ground plot sketch) {event : Event}
    (hplace : event.place? = none) (hline : event.line? = none) {notices : Array Notice}
    (hnotices : notices = plot.notices ++ (event.notice? ground.top).toList.toArray) :
    Realises ground { plot with notices } { sketch with history := event :: sketch.history } := by
  obtain ⟨hdirectories, hfiles, hbytes⟩ := Event.no_tally_of_place? hplace
  have hlines : History.lines (event :: sketch.history) = sketch.history.lines := by
    rw [History.lines, hline, Option.toList_none, List.append_nil]
  exact { hreal with
    tree := by
      intro other
      rw [hreal.tree, History.entryAt, hplace, if_neg (by simp), Option.or_none]
    account := by
      rw [hlines]
      exact hreal.account
    entries := by
      rw [hlines]
      exact hreal.entries
    directories := by
      rw [History.directories, hdirectories]
      exact hreal.directories
    files := by
      rw [History.files, hfiles]
      exact hreal.files
    payloadBytes := by
      rw [History.payloadBytes, hbytes]
      exact hreal.payloadBytes
    notices := by
      show notices = _
      rw [hnotices, hreal.notices, History.notices, Array.append_assoc, ← List.append_toArray] }

theorem discarded_simulates (identifier : String) :
    Simulates (σ := σ) ground place (pure ()) (Sketching.note (.discarded identifier)) := by
  intro plot sketch hreal _
  have hnotices : plot.notices =
      plot.notices ++ ((Event.discarded identifier).notice? ground.top).toList.toArray := by
    simp [Event.notice?]
  exact ⟨_, rfl, hreal.note rfl rfl hnotices, List.suffix_cons _ _⟩

theorem filled_simulates (directory : Place) (depth : Nat) (slots files : UInt64) :
    Simulates (σ := σ) ground place
      (Making.onWorld
        (Act.report (.filled (Path.ofPlace (directory ++ ground.top)) depth slots files)))
      (Sketching.note (.filled directory depth slots files)) := by
  intro plot sketch hreal _
  exact ⟨_, rfl, hreal.note rfl rfl (by simp [Event.notice?]), List.suffix_cons _ _⟩

/-! ## Entries and lines

  These two are all that a growing fixture does to the disk. -/

/-- Entries are told apart by their places below the fixture directory. -/
theorem append_top_inj {top first second : Place} :
    first ++ top = second ++ top ↔ first = second :=
  List.append_left_inj top

/-- An entry that is added to the disk is added to the history. -/
theorem Realises.tree_add (hreal : Realises ground plot sketch) {event : Event} {made : Place}
    {disk : Disk} (hplace : event.place? = some made) (hfree : sketch.history.entryAt made = none)
    (hview : ∀ other, disk.get? other =
      if made ++ ground.top = other then some event.entry else plot.disk.get? other)
    (place : Place) :
    disk.get? (place ++ ground.top) = History.entryAt (event :: sketch.history) place := by
  rw [hview, History.entryAt, hplace, hreal.tree]
  -- the new entry is at its place and nowhere else
  by_cases hsame : made = place
  · subst hsame
    rw [if_pos rfl, if_pos rfl, hfree, Option.none_or]
  · rw [if_neg (fun h => hsame (append_top_inj.1 h)), if_neg (fun h => hsame (Option.some.inj h)),
      Option.or_none]

/-- Where an entry has been made and counted, the plot is what the longer history describes.
    The ledger is outside the fixture, so its account is what it was. -/
theorem Realises.made (hreal : Realises ground plot sketch) {event : Event} {made : Place}
    {disk : Disk} (hplace : event.place? = some made) (hfree : sketch.history.entryAt made = none)
    (hview : ∀ other, disk.get? other =
      if made ++ ground.top = other then some event.entry else plot.disk.get? other) :
    Realises ground
      { plot with
        disk
        directories := plot.directories + event.directories
        files := plot.files + event.files
        payloadBytes := plot.payloadBytes + event.payloadBytes }
      { sketch with history := event :: sketch.history } := by
  have houtside : ∀ place, ¬ ground.top <:+ place → disk.get? place = plot.disk.get? place := by
    intro place hout
    rw [hview, if_neg]
    rintro rfl
    exact hout ⟨made, rfl⟩
  have hledger : ∀ place, plot.ledger.place? = some place →
      disk.get? place = plot.disk.get? place :=
    fun place hsome => houtside place (ground.ledger_outside place (hreal.ledgerPlace ▸ hsome))
  obtain ⟨hline, hnotice⟩ := Event.only_entry_of_place? hplace ground.top
  have hlines : History.lines (event :: sketch.history) = sketch.history.lines := by
    rw [History.lines, hline, Option.toList_none, List.append_nil]
  exact {
    source := hreal.source
    counter := hreal.counter
    pool := hreal.pool
    tree := hreal.tree_add hplace hfree hview
    elsewhere := by
      intro place hout hne
      exact (houtside place hout).trans (hreal.elsewhere place hout hne)
    atEnd := hreal.atEnd.congr hledger
    account := by
      rw [hlines]
      exact (congrArg (· ++ plot.ledger.buffer) (Ledger.written_congr hledger)).trans
        hreal.account
    entries := by
      rw [hlines]
      exact hreal.entries
    ledgerPath := hreal.ledgerPath
    ledgerPlace := hreal.ledgerPlace
    directories := by
      show plot.directories + event.directories = _
      rw [History.directories, hreal.directories]
      omega
    files := congrArg (· + event.files) hreal.files
    payloadBytes := congrArg (· + event.payloadBytes) hreal.payloadBytes
    notices := by
      rw [History.notices, hnotice, Option.toList_none, List.append_nil]
      exact hreal.notices }

/-- **Making an entry**, whatever operation makes it, and counting it.

    What is asked of the operation is how it ends in a directory of the fixture: a path that is
    too long is refused first, then a place that is taken, and otherwise the entry is added.
    Directories and files are both made so.  The sketch refuses in the same order, so the two
    end alike in each case. -/
theorem make_simulates (event : Event) {task : Task} {change : Disk → Except Cause Disk}
    {name : String} {parent : Place} (hname : Path.IsStep name)
    (hplace : event.place? = some (name :: parent))
    (hchange : ∀ disk : Disk, disk.get? (parent ++ ground.top) = some .directory → change disk =
      if Path.isSpellable (name :: (parent ++ ground.top)) then
        if disk.get? (name :: (parent ++ ground.top)) = none then
          .ok (disk.add (parent ++ ground.top) name event.entry)
        else .error .alreadyThere
      else .error .nameTooLong) :
    Simulates (σ := σ) ground parent
      (Making.onDisk task (Path.ofPlace (name :: (parent ++ ground.top))) change >>= fun _ =>
        modify fun plot => { plot with
          directories := plot.directories + event.directories
          files := plot.files + event.files
          payloadBytes := plot.payloadBytes + event.payloadBytes })
      (Sketching.make ground.blocked task (name :: parent) event) := by
  intro plot sketch hreal hparent
  have hdirectory : plot.disk.get? (parent ++ ground.top) = some .directory := by
    rw [hreal.tree, hparent]
  have hentry : plot.disk.get? (name :: (parent ++ ground.top)) =
      sketch.history.entryAt (name :: parent) := hreal.tree (name :: parent)
  have hblocked : ground.blocked (name :: parent) =
      !Path.isSpellable (name :: (parent ++ ground.top)) := rfl
  have hdisk := hchange plot.disk hdirectory
  rw [hentry] at hdisk
  rw [Sketching.make, hblocked]
  by_cases hspell : Path.isSpellable (name :: (parent ++ ground.top)) = true
  · rw [if_pos hspell] at hdisk
    rw [if_neg (by simp [hspell])]
    by_cases hfree : sketch.history.entryAt (name :: parent) = none
    · rw [if_pos hfree] at hdisk
      rw [if_pos hfree]
      -- the place is free: the entry is made on the disk and in the history
      simp only [Bind.bind, EStateM.bind, Making.onDisk, hdisk]
      refine ⟨_, rfl, ?_, List.suffix_cons _ _⟩
      have hview : ∀ other, (plot.disk.add (parent ++ ground.top) name event.entry).get? other =
          if name :: (parent ++ ground.top) = other then some event.entry
          else plot.disk.get? other :=
        Disk.get?_add_of_isSpellable hname hdirectory hspell (hentry.trans hfree)
      exact hreal.made hplace hfree hview
    · -- something is there: both are refused
      rw [if_neg hfree] at hdisk
      rw [if_neg hfree]
      simp only [Bind.bind, EStateM.bind, Making.onDisk, hdisk]
      exact Or.inr ⟨_, sketch, rfl, rfl, hreal, List.suffix_rfl⟩
  · -- the path is too long, so the place is blocked
    rw [if_neg hspell] at hdisk
    rw [if_pos (by simp [hspell])]
    simp only [Bind.bind, EStateM.bind, Making.onDisk, hdisk]
    exact Or.inr ⟨_, sketch, rfl, rfl, hreal, List.suffix_rfl⟩

/-- **Recording a line**: it is added to the history, or the full device refuses it.  A ledger
    with a file takes every line, be it into the buffer or on to the disk, and either way the
    account grows by it. -/
theorem record_simulates (file tag : String) :
    Simulates (σ := σ) ground place (Making.record file tag)
      (Sketching.note (.line file tag)) := by
  intro plot sketch hreal _
  have happend := Ledger.append_accounts hreal.atEnd file tag
  rw [Making.record]
  cases hresult : plot.ledger.append plot.disk file tag with
  | mk outcome after =>
    obtain ⟨ledger, disk⟩ := after
    rw [hresult] at happend
    cases outcome with
    | error failure =>
      -- only the full device refuses, and then the ledger has no file
      have hplace : plot.ledger.place? = none := Ledger.place?_of_full happend.full
      refine Or.inl ⟨hreal.ledgerPlace ▸ hplace, happend.still_full, ?_⟩
      exact {
        top := (happend.disk ground.top).trans hreal.spares.top
        elsewhere := fun other hout hne =>
          (happend.disk other).trans (hreal.elsewhere other hout hne) }
    -- the line is in the account on the one side and in the history on the other
    | ok _ =>
      refine ⟨{ sketch with history := .line file tag :: sketch.history }, rfl, ?_,
        List.suffix_cons _ _⟩
      have hledger : ∀ place, some place = plot.ledger.place? → ¬ ground.top <:+ place := by
        intro place hsome
        exact ground.ledger_outside place (by rw [← hreal.ledgerPlace, ← hsome])
      have hlines : History.lines (.line file tag :: sketch.history) =
          sketch.history.lines ++ [(file, tag)] := rfl
      exact {
        source := hreal.source
        counter := hreal.counter
        pool := hreal.pool
        tree := by
          intro other
          have hother : some (other ++ ground.top) ≠ plot.ledger.place? :=
            fun h => hledger _ h ⟨other, rfl⟩
          show disk.get? (other ++ ground.top) = _
          rw [happend.elsewhere _ hother, hreal.tree, History.entryAt]
          simp [Event.place?]
        elsewhere := by
          intro other hout hne
          rw [← hreal.elsewhere other hout hne]
          exact happend.elsewhere other (by rw [hreal.ledgerPlace]; exact hne)
        atEnd := happend.atEnd
        account := by
          show ledger.account disk = _
          rw [happend.account, hreal.account, hlines, Ledger.text_append_singleton]
          simp
        entries := by
          show ledger.entries = _
          rw [happend.entries, hreal.entries, hlines, List.length_append, List.length_singleton]
        ledgerPath := happend.path.trans hreal.ledgerPath
        ledgerPlace := happend.place.trans hreal.ledgerPlace
        directories := hreal.directories
        files := hreal.files
        payloadBytes := hreal.payloadBytes
        notices := by
          rw [hreal.notices, History.notices]
          simp [Event.notice?] }

end Thicket
