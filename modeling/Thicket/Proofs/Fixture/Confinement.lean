/-
  What a call leaves alone.

  However a call ends, it has done one of three things to the disk (`generate_effects`): nothing;
  made directories on the way to the root; or, once the root was there, made the directory of its
  fixture and gone on to work there (`Raised`).

  1. **The end of growing** — this is what the simulation says of every plot that the growing can
     end with, be it whole, halted or refused a line by the full device (`Matches.contains`);
     closing the ledger adds nothing new (`Contains.closed`).
  2. **A fixture that is raised** — outside the tree and the ledger nothing has changed, and the
     ledger is as it was or is a file that was a file or nothing (`Founded.raised`).
  3. **The stages of a call** — each stage of the opening can be the last one, and what was done
     up to there is known (`openFixture_affects`).

  So everything that was on the disk is still there and as it was, but for a ledger whose fixture
  is new, and everything that is new is on the way to the root, in the fixture, or is the ledger
  (`generate_confined`).  The way to the root is told by the root's path: each directory that is new
  there is where a first part of that path leads on the disk that is left (`Disk.Along`).
-/
import Thicket.Proofs.Disk.Along
import Thicket.Proofs.Fixture.Completion
import Thicket.Proofs.Ledger.Replacing

namespace Thicket

variable {σ : Type}

/-! ## The end of growing

  The ground of a fixture is its tree and the file of its ledger; the growing keeps to it at
  every step. -/

/-- The fixture has grown on its ground only, and its ledger can be closed. -/
structure Ground.Contains (ground : Ground) (plot : Plot σ) : Prop where
  spares : ground.Spares plot.disk
  atEnd : plot.ledger.AtEnd plot.disk
  ledgerPlace : plot.ledger.place? = ground.ledgerPlace

/-- A plot that realises a sketch has kept to its ground. -/
theorem Realises.contains {ground : Ground} {plot : Plot σ} {sketch : Sketch σ}
    (h : Realises ground plot sketch) : ground.Contains plot :=
  ⟨h.spares, h.atEnd, h.ledgerPlace⟩

/-- **However a program ends that keeps to its sketch**, it has changed nothing off its ground. -/
theorem Matches.contains {α : Type} {ground : Ground} {before : History}
    {result : EStateM.Result Stop (Plot σ) α} {result' : EStateM.Result Halt (Sketch σ) α}
    (h : Matches ground before result result') : ground.Contains (stateLeft result) := by
  cases result with
  | ok a plot =>
    obtain ⟨sketch, -, hreal, -⟩ := h
    exact hreal.contains
  | error stop plot =>
    rcases h with ⟨hplace, hfull, hspares⟩ | ⟨halt, sketch, -, -, hreal, -⟩
    · -- the full device has no file to be at the end of
      refine ⟨hspares, ?_, ?_⟩
      · show plot.ledger.AtEnd plot.disk
        rw [Ledger.AtEnd, hfull]
        trivial
      · exact (Ledger.place?_of_full hfull).trans hplace.symm
    · exact hreal.contains

/-- Closing the ledger changes its file and nothing else. -/
theorem Ground.Contains.closed {ground : Ground} {plot : Plot σ} (h : ground.Contains plot) :
    ground.Spares (plot.ledger.finish plot.disk).2 ∧
      ∀ place, ground.ledgerPlace = some place →
        ∃ content, (plot.ledger.finish plot.disk).2.get? place = some (.file content) := by
  have hclosed := Ledger.finish_accounts h.atEnd
  cases hfinish : plot.ledger.finish plot.disk with
  | mk outcome disk =>
    rw [hfinish] at hclosed
    cases outcome with
    | ok entries =>
      obtain ⟨-, helsewhere, hfile, -⟩ := hclosed
      rw [h.ledgerPlace] at helsewhere hfile
      refine ⟨⟨?_, ?_⟩, fun place hplace => ⟨_, hfile place hplace⟩⟩
      · rw [helsewhere _ fun hsame => ground.ledger_outside _ hsame.symm List.suffix_rfl]
        exact h.spares.top
      · exact fun place hout hne => (helsewhere place hne).trans (h.spares.elsewhere place hout hne)
    | error failure =>
      obtain ⟨hfull, hsame⟩ := hclosed
      refine ⟨⟨(hsame _).trans h.spares.top, ?_⟩, ?_⟩
      · exact fun place hout hne => (hsame place).trans (h.spares.elsewhere place hout hne)
      · intro place hplace
        rw [← h.ledgerPlace, Ledger.place?_of_full hfull] at hplace
        cases hplace

namespace Generator

/-! ## A fixture that is raised

  The directory of the fixture was not there before, so all that is in it is new. -/

/-- All that a call does to the disk once the root is there: it makes the directory of its fixture,
    works in it, and writes a ledger beside it, in a new file or in one that was there. -/
structure Raised (name : String) (base : Place) (before after : Disk) : Prop where
  target_free : before.get? (name :: base) = none
  target_made : after.get? (name :: base) = some .directory
  outside : ∀ place, ¬ (name :: base) <:+ place → place ≠ ledgerPlace name base →
    after.get? place = before.get? place
  ledger : after.get? (ledgerPlace name base) = before.get? (ledgerPlace name base) ∨
    (before.get? (ledgerPlace name base) = none ∨
      ∃ content, before.get? (ledgerPlace name base) = some (.file content)) ∧
    ∃ content, after.get? (ledgerPlace name base) = some (.file content)

variable {name : String} {base : Place} {rooted opened : World σ} {target : String}
  {ledger : Ledger}

/-- A ledger is not opened where there is a directory. -/
theorem Founded.ledger_entry (h : Founded name base rooted target ledger opened)
    (hlink : ∀ target, rooted.disk.get? (ledgerPlace name base) ≠ some (.link target)) :
    rooted.disk.get? (ledgerPlace name base) ≠ some .directory := by
  intro hdirectory
  have hname : Path.IsStep (name ++ ledgerSuffix) :=
    h.name_isStep.append (by decide) (by decide) (by decide)
  obtain ⟨hbase, hplace⟩ :=
    get?_beside_made h.name_isStep h.base_directory h.target_spellable h.target_free
  have hopened := h.ledger_opened
  rw [openLedger_ofPlace hname hbase (by rw [← ledgerPlace, hplace]; exact hlink)] at hopened
  dsimp only at hopened
  rw [← ledgerPlace, hplace, hdirectory] at hopened
  split at hopened <;> cases hopened

/-- A fixture that has grown on its ground only is raised. -/
theorem Founded.raised (h : Founded name base rooted target ledger opened)
    (hlink : ∀ target, rooted.disk.get? (ledgerPlace name base) ≠ some (.link target))
    (hledger : LedgerOpened name base rooted ledger opened) {start : World σ}
    (hstart : start.disk = opened.disk) {disk : Disk}
    (hspares : (hledger.ground start).Spares disk)
    (hfile : ∀ place, (hledger.ground start).ledgerPlace = some place →
      ∃ content, disk.get? place = some (.file content)) :
    Raised name base rooted.disk disk where
  target_free := h.target_free
  target_made := hspares.top
  outside := by
    intro place hout hne
    have hmade : (rooted.disk.add base name .directory).get? place = rooted.disk.get? place := by
      rw [h.get?_made, if_neg]
      rintro rfl
      exact hout List.suffix_rfl
    have hsame : disk.get? place = opened.disk.get? place := by
      refine (hspares.elsewhere place hout ?_).trans (by rw [← hstart]; rfl)
      show some place ≠ ledger.place?
      rcases hledger.sink with ⟨hsink, -, -⟩ | ⟨hsink, -, -⟩
      · rw [Ledger.place?_of_file hsink]
        exact fun heq => hne (Option.some.inj heq)
      · rw [Ledger.place?_of_full hsink]
        exact Option.some_ne_none place
    rcases hledger.sink with ⟨-, -, hopened⟩ | ⟨-, -, hopened⟩
    · rw [hsame, hopened, if_neg (Ne.symm hne), hmade]
    · rw [hsame, hopened, hmade]
  ledger := by
    rcases hledger.sink with ⟨hsink, hdevice, -⟩ | ⟨hsink, -, hopened⟩
    · refine Or.inr ⟨?_, hfile _ (Ledger.place?_of_file hsink)⟩
      -- neither a device nor a link nor a directory was there
      have hdirectory := h.ledger_entry hlink
      cases hentry : rooted.disk.get? (ledgerPlace name base) with
      | none => exact Or.inl rfl
      | some entry =>
        rw [hentry] at hdevice hdirectory
        cases entry with
        | directory => exact absurd rfl hdirectory
        | file content => exact Or.inr ⟨content, rfl⟩
        | link target => exact absurd hentry (hlink target)
        | fullDevice => exact absurd rfl hdevice
    · refine Or.inl ?_
      rw [hspares.elsewhere _ (ledgerPlace_outside name base)
        (ne_of_ne_of_eq (Option.some_ne_none _) (Ledger.place?_of_full hsink).symm)]
      show start.disk.get? _ = _
      rw [hstart, hopened, h.get?_made, if_neg (ledgerPlace_ne name base)]

/-! ## The stages of a call

  Only the making of the root can change something outside the fixture and its ledger. -/

/-- The disk once the root was made, or as much of it as could be made. -/
def rootedDisk (generator : Generator) (world : World σ) : Disk :=
  (stateLeft (makeRoot generator.settings.root world)).disk

/-- Nothing is made where the root is. -/
theorem rootedDisk_eq_of_pathExists {generator : Generator} {world : World σ}
    (h : world.disk.pathExists generator.settings.root = true) :
    generator.rootedDisk world = world.disk := by
  rw [rootedDisk, makeRoot, if_pos h]
  rfl

/-- The root was there, or its directories were made as far as that went. -/
theorem rootedDisk_eq (generator : Generator) (world : World σ) :
    generator.rootedDisk world = world.disk ∨
      generator.rootedDisk world = (world.disk.makeDirectories generator.settings.root).2 := by
  by_cases hexists : world.disk.pathExists generator.settings.root = true
  · exact Or.inl (rootedDisk_eq_of_pathExists hexists)
  · refine Or.inr ?_
    rw [rootedDisk, makeRoot, if_neg hexists]
    cases world.disk.makeDirectories generator.settings.root with
    | mk outcome disk => cases outcome <;> rfl

/-- Either way there are at most some directories more. -/
theorem rootedDisk_adds (generator : Generator) (world : World σ) :
    Disk.AddsDirectories world.disk (generator.rootedDisk world) := by
  rcases generator.rootedDisk_eq world with hsame | hmade
  · rw [hsame]
    exact Disk.AddsDirectories.refl _
  · rw [hmade]
    exact world.disk.makeDirectories_adds _

/-- What is new once the root was made is along the root's path. -/
theorem rootedDisk_along {generator : Generator} {world : World σ} {place : Place}
    (hfree : world.disk.get? place = none) (hnew : (generator.rootedDisk world).get? place ≠ none) :
    (generator.rootedDisk world).Along world.disk.home generator.settings.root place := by
  rcases generator.rootedDisk_eq world with hsame | hmade
  · rw [hsame] at hnew
    exact absurd hfree hnew
  · rw [hmade] at hnew ⊢
    exact Disk.along_of_makeDirectories hfree hnew

/-- What a call has done to the disk, as far as it came. -/
def Affects (generator : Generator) (name : String) (world : World σ) (after : Disk) : Prop :=
  after = world.disk ∨ after = generator.rootedDisk world ∨
    ∃ base, generator.base? world = some base ∧
      Raised name base (generator.rootedDisk world) after

/-- Where the directory of the fixture cannot be made, nothing changes. -/
theorem makeTarget_error {target : String} {world after : World σ} {stop : Stop}
    (h : makeTarget target world = .error stop after) : after = world := by
  rw [makeTarget] at h
  split at h
  · cases h
  · cases h
    rfl
  · cases h
    rfl

/-- Where the opening of a fixture fails, its directory may have been made, but no ledger. -/
theorem openFixture_affects {generator : Generator} {world after : World σ} {stop : Stop}
    (h : generator.openFixture name world = .error stop after) :
    generator.Affects name world after.disk := by
  have hopens := openFixture_opens generator name world
  rw [h] at hopens
  cases hopens with
  | badName => exact Or.inl rfl
  | noRoot hrooted => exact Or.inr (Or.inl (by rw [rootedDisk, hrooted, stateLeft]))
  | lostRoot hrooted => exact Or.inr (Or.inl (by rw [rootedDisk, hrooted, stateLeft]))
  | noTarget _ hrooted _ htarget =>
    refine Or.inr (Or.inl ?_)
    rw [makeTarget_error htarget, rootedDisk, hrooted, stateLeft]
  | @noLedger base _ rooted _ hrooted hresolve hname hbase hspell hfree hledger =>
    refine Or.inr (Or.inr ⟨base, base?_eq hrooted hresolve, ?_⟩)
    rw [openLedger_error hledger, rootedDisk, hrooted, stateLeft]
    have hmade : ∀ place, (rooted.disk.add base name .directory).get? place =
        if name :: base = place then some .directory else rooted.disk.get? place :=
      Disk.get?_add_of_isSpellable hname hbase hspell hfree
    refine ⟨hfree, ?_, ?_, Or.inl ?_⟩
    · rw [hmade, if_pos rfl]
    · intro place hout _
      rw [hmade, if_neg]
      rintro rfl
      exact hout List.suffix_rfl
    · rw [hmade, if_neg (ledgerPlace_ne name base)]

variable [WordSource σ]

omit [WordSource σ] in
/-- What is left on the disk where the growing of a tree has ended, in whatever way. -/
theorem stateLeft_close (generator : Generator) (target : String)
    (grown : EStateM.Result Stop (Plot σ) Unit) :
    (stateLeft (generator.close target grown)).disk =
      ((stateLeft grown).ledger.finish (stateLeft grown).disk).2 := by
  cases grown with
  | error stop plot => rfl
  | ok _ plot =>
    rw [close, stateLeft]
    dsimp only
    cases plot.ledger.finish plot.disk with
    | mk outcome disk => cases outcome <;> rfl

/-- **All that a call can do to the disk**, however it ends. -/
theorem generate_effects {generator : Generator} {world : World σ}
    (hlink : generator.LedgerUnlinked name world) :
    generator.Affects name world (stateLeft (generator.generate name world)).disk := by
  cases hopen : generator.openFixture name world with
  | error stop opened =>
    rw [generate, run_bind_of_error hopen]
    exact openFixture_affects hopen
  | ok opening opened =>
    obtain ⟨target, ledger⟩ := opening
    obtain ⟨base, rooted, hbase, hrooted, hunlinked, hfounded, hledger⟩ :=
      exists_ledgerOpened hlink hopen
    have hcontains := (hfounded.fill_matches hledger generator).contains
    have hdisk : generator.rootedDisk world = rooted.disk := by
      rw [rootedDisk, hrooted, stateLeft]
    refine Or.inr (Or.inr ⟨base, hbase, ?_⟩)
    rw [generate_of_opened hopen, stateLeft_close, hdisk]
    have hstart : (announced target opened).disk = opened.disk := rfl
    exact hfounded.raised hunlinked hledger hstart hcontains.closed.1 hcontains.closed.2

/-! ## What is kept and what is new

  Two questions about every place: was there something, and is there something now. -/

/-- What a call may change, by the world that it finds and the disk that it leaves. -/
structure Confined (generator : Generator) (name : String) (world : World σ) (after : Disk) :
    Prop where
  /-- Everything is still there and as it was; only a file at the ledger's place may have another
      content, if the directory of the fixture is new. -/
  kept : ∀ place entry, world.disk.get? place = some entry → after.get? place = some entry ∨
    ∃ base old new, generator.base? world = some base ∧ place = ledgerPlace name base ∧
      entry = .file old ∧ after.get? place = some (.file new) ∧
      world.disk.get? (name :: base) = none ∧ after.get? (name :: base) = some .directory
  /-- What is new is a directory along the root's path, or in the fixture, or the ledger. -/
  added : ∀ place, world.disk.get? place = none → after.get? place ≠ none →
    after.get? place = some .directory ∧
        after.Along world.disk.home generator.settings.root place ∨
      ∃ base, generator.base? world = some base ∧
        ((name :: base) <:+ place ∨ place = ledgerPlace name base)

omit [WordSource σ] in
/-- Where a fixture is raised, everything stays but for the ledger. -/
theorem Raised.get?_eq {before after : Disk} (h : Raised name base before after) {place : Place}
    {entry : Entry} (hentry : before.get? place = some entry)
    (hledger : place ≠ ledgerPlace name base) : after.get? place = some entry := by
  rw [h.outside place ?_ hledger, hentry]
  -- nothing was in the fixture before there was one
  rintro ⟨inner, rfl⟩
  by_cases hinner : inner = []
  · subst hinner
    rw [List.nil_append, h.target_free] at hentry
    cases hentry
  · have habove := Disk.get?_of_append hinner (by rw [hentry]; exact Option.some_ne_none _)
    rw [h.target_free] at habove
    cases habove

omit [WordSource σ] in
/-- A raised fixture leaves all ways as they were. -/
theorem Raised.keepsWays {before after : Disk} (h : Raised name base before after) :
    Disk.KeepsWays before after := by
  intro place entry hentry
  by_cases hledger : place = ledgerPlace name base
  · subst hledger
    rcases h.ledger with hsame | ⟨hfree | ⟨old, hold⟩, new, hnew⟩
    · exact ⟨entry, hsame.trans hentry, fun _ => Iff.rfl⟩
    · rw [hfree] at hentry
      cases hentry
    · rw [hold] at hentry
      cases hentry
      exact ⟨_, hnew, fun _ => by simp⟩
  · exact ⟨entry, h.get?_eq hentry hledger, fun _ => Iff.rfl⟩

/-- **A call is confined to the way to its root, its fixture and its ledger**, however it ends. -/
theorem generate_confined {generator : Generator} {name : String} {world : World σ}
    (hlink : generator.LedgerUnlinked name world) :
    generator.Confined name world (stateLeft (generator.generate name world)).disk := by
  have hadds := generator.rootedDisk_adds world
  rcases generate_effects hlink with hsame | hsame | ⟨base, hbase, hraised⟩
  · rw [hsame]
    exact ⟨fun _ _ hentry => Or.inl hentry, fun _ hfree hnew => absurd hfree hnew⟩
  · rw [hsame]
    refine ⟨fun _ _ hentry => Or.inl (hadds.get?_eq hentry), fun place hfree hnew => Or.inl ?_⟩
    exact ⟨(hadds place).elim (fun hold => absurd (hold.trans hfree) hnew) And.right,
      rootedDisk_along hfree hnew⟩
  · generalize (stateLeft (generator.generate name world)).disk = after at hraised ⊢
    constructor
    · intro place entry hentry
      have hrooted := hadds.get?_eq hentry
      by_cases hledger : place = ledgerPlace name base
      · subst hledger
        rcases hraised.ledger with hsame | ⟨hfree | ⟨old, hold⟩, new, hnew⟩
        · exact Or.inl (hsame.trans hrooted)
        · rw [hfree] at hrooted
          cases hrooted
        · rw [hold] at hrooted
          cases hrooted
          refine Or.inr ⟨base, old, new, hbase, rfl, rfl, hnew, ?_, hraised.target_made⟩
          -- what was there before the root was made would be there still
          refine Option.eq_none_iff_forall_ne_some.2 fun entry htarget => ?_
          have hthere := hadds.get?_eq htarget
          rw [hraised.target_free] at hthere
          cases hthere
      · exact Or.inl (hraised.get?_eq hrooted hledger)
    · intro place hfree hnew
      refine or_iff_not_imp_right.2 fun houtside => ?_
      have hout : ¬ (name :: base) <:+ place := fun h => houtside ⟨base, hbase, Or.inl h⟩
      have hledger : place ≠ ledgerPlace name base := fun h => houtside ⟨base, hbase, Or.inr h⟩
      -- beside the fixture and its ledger, it was made with the root
      have hsame := hraised.outside place hout hledger
      rw [hsame] at hnew
      have hmade := (hadds place).resolve_left fun hold => hnew (hold.trans hfree)
      exact ⟨hsame.trans hmade.2, (rootedDisk_along hfree hnew).mono hraised.keepsWays⟩

/-- The little call is confined: there is no link where its ledger is to be. -/
theorem little_confined : little.LedgerUnlinked "f" World.little ∧
    little.Confined "f" World.little (stateLeft (little.generate "f" World.little)).disk :=
  ⟨little_ledgerUnlinked, generate_confined little_ledgerUnlinked⟩

end Generator

end Thicket
