/-
  What a refused call leaves behind.

  A fixture is refused because something is there already at one point only: when its directory is
  about to be made (`generate_eq_alreadyExists`).  Once that directory is made a call can stop for
  mishaps and for what the disk refuses, and for nothing else (`grow_stopsAs`).

  1. **Kinds of stops** — `StopsAs` says that a step ends early only for stops of a kind.  It goes
     through sequences, choices and repetitions, so a kind that has the stops of the single steps
     (`Generator.Covers`) has those of the whole program.  Two kinds are needed: accidents, and
     everything but an empty range.
  2. **The point of refusal** — what comes before it is the making of the root, if it is missing.
     So a refused call has changed nothing if and only if the root was there
     (`refusal_leaves_disk`).

  A root that was missing and is then found to hold the fixture has a step to the directory above
  in its path: one without such a step was made just now, and there is nothing in it
  (`Disk.Bare`).  With such a step the directories that are made on the way are not those that the
  path ends at, and a refused call leaves them behind.
-/
import Thicket.Proofs.Fixture.Completion
import Thicket.Proofs.Sketch.Contract
import Thicket.Proofs.Sketch.Independence

namespace Thicket

variable {σ : Type}

/-! ## Kinds of stops

  Nothing is said of the states here, neither before nor after. -/

/-- Whenever the step ends early, it is for a stop of a kind. -/
def StopsAs {τ α : Type} (step : EStateM Stop τ α) (kind : Stop → Prop) : Prop :=
  ∀ state stop after, step state = .error stop after → kind stop

namespace StopsAs

variable {τ α β : Type} {kind : Stop → Prop}

theorem pure (a : α) : StopsAs (τ := τ) (pure a) kind := by
  intro state stop after h
  cases h

theorem bind {step : EStateM Stop τ α} {next : α → EStateM Stop τ β} (h : StopsAs step kind)
    (h' : ∀ a, StopsAs (next a) kind) : StopsAs (step >>= next) kind := by
  intro state stop after hrun
  cases hstep : step state with
  | ok a middle =>
    rw [run_bind_of_ok hstep] at hrun
    exact h' a middle stop after hrun
  | error reason middle =>
    rw [run_bind_of_error hstep] at hrun
    cases hrun
    exact h state stop after hstep

theorem get : StopsAs (get : EStateM Stop τ τ) kind := by
  intro state stop after h
  cases h

theorem modify (change : τ → τ) : StopsAs (modify change : EStateM Stop τ PUnit) kind := by
  intro state stop after h
  cases h

theorem ite {condition : Prop} [Decidable condition] {yes no : EStateM Stop τ α}
    (hyes : StopsAs yes kind) (hno : StopsAs no kind) :
    StopsAs (if condition then yes else no) kind := by
  by_cases h : condition
  · rw [if_pos h]
    exact hyes
  · rw [if_neg h]
    exact hno

/-- Redrawing stops with an attempt, or when patience is at its end. -/
theorem retry {giveUp : Stop} {attempt : EStateM Stop τ (Option α)} (hgiveUp : kind giveUp)
    (h : StopsAs attempt kind) (patience : Nat) :
    StopsAs (Draw.retry giveUp attempt patience) kind := by
  induction patience with
  | zero =>
    intro state stop after hrun
    cases hrun
    exact hgiveUp
  | succ patience ih =>
    refine h.bind fun answer => ?_
    cases answer with
    | none => exact ih
    | some a => exact StopsAs.pure a

theorem times {step : Making σ Unit} (h : StopsAs step kind) (count : Nat) :
    StopsAs (Making.times count step) kind := by
  induction count with
  | zero => exact StopsAs.pure ()
  | succ count ih => exact h.bind fun _ => ih

end StopsAs

/-! ## Accidents

  Mishaps and refusals of the disk are what the maker of a fixture cannot foresee. -/

/-- The stop is a mishap, or something that the disk refused. -/
def Stop.IsAccident : Stop → Prop
  | .mishap _ => True
  | .failed (.storage _ _ _) => True
  | .failed _ => False

/-- The kind has all that a growing fixture can stop for: what the disk refuses, a stalled
    source, and an empty range where the settings have a fault.  To know what a call can stop
    for is to show that a kind has these. -/
structure Generator.Covers (generator : Generator) (kind : Stop → Prop) : Prop where
  storage : ∀ task path cause, kind (.failed (.storage task path cause))
  stalled : kind (.mishap .stalled)
  emptyRange : generator.settings.fault? ≠ none → kind (.mishap .emptyRange)

/-- Accidents are all that a growing fixture can stop for. -/
theorem Generator.covers_isAccident (generator : Generator) :
    generator.Covers Stop.IsAccident where
  storage _ _ _ := trivial
  stalled := trivial
  emptyRange _ := trivial

/-- The little world with a fixture `f` in a directory `b`. -/
def World.occupied : World Steady :=
  { World.little with disk := (Disk.empty.add [] "b" .directory).add ["b"] "f" .directory }

namespace Generator

open Making

namespace Covers

variable {generator : Generator} {kind : Stop → Prop} (h : generator.Covers kind)

include h

theorem draw {α : Type} {d : Draw σ α} {given : α → Prop} (hgives : d.Gives given) :
    StopsAs (Making.draw d) kind := by
  intro plot stop after hrun
  have hdraw := hgives plot.source
  rw [Making.draw, onWorld, Act.draw] at hrun
  cases hresult : d plot.source with
  | ok a source =>
    rw [hresult] at hrun
    cases hrun
  | error mishap source =>
    rw [hresult] at hdraw
    rw [hresult, show mishap = .stalled from hdraw] at hrun
    cases hrun
    exact h.stalled

/-- What the disk refuses is told with the operation and its path. -/
theorem onDisk (task : Task) (path : String) (change : Disk → Except Cause Disk) :
    StopsAs (Making.onDisk (σ := σ) task path change) kind := by
  intro plot stop after hrun
  rw [Making.onDisk] at hrun
  cases hchange : change plot.disk with
  | ok disk =>
    rw [hchange] at hrun
    cases hrun
  | error cause =>
    rw [hchange] at hrun
    cases hrun
    exact h.storage task path cause

theorem nextIdentifier (codec : Codec) :
    StopsAs (Making.nextIdentifier (σ := σ) codec) kind := by
  intro plot stop after hrun
  rw [Making.nextIdentifier] at hrun
  split at hrun
  · cases hrun
    exact h.stalled
  · cases hrun

theorem record (file tag : String) : StopsAs (Making.record (σ := σ) file tag) kind := by
  intro plot stop after hrun
  rw [Making.record, Ledger.append] at hrun
  cases hput : Ledger.putLine file tag (plot.ledger, plot.disk) with
  | ok a written =>
    rw [hput] at hrun
    cases hrun
  | error cause written =>
    rw [hput] at hrun
    cases hrun
    exact h.storage _ _ _

theorem makeRoot (root : String) : StopsAs (makeRoot (σ := σ) root) kind := by
  intro world stop after hrun
  rw [Generator.makeRoot] at hrun
  split at hrun
  · cases hrun
  · cases hmade : world.disk.makeDirectories root with
    | mk outcome disk =>
      rw [hmade] at hrun
      cases outcome with
      | ok _ => cases hrun
      | error cause =>
        cases hrun
        exact h.storage _ _ _

theorem resolveRoot (root : String) : StopsAs (resolveRoot (σ := σ) root) kind := by
  intro world stop after hrun
  rw [Generator.resolveRoot] at hrun
  split at hrun
  · cases hrun
  · cases hrun
    exact h.storage _ _ _

/-- A directory that cannot be made: here, and only here, something may be there already. -/
theorem makeTarget (hthere : ∀ path, kind (.failed (.alreadyExists path))) (target : String) :
    StopsAs (makeTarget (σ := σ) target) kind := by
  intro world stop after hrun
  rw [Generator.makeTarget] at hrun
  split at hrun
  · cases hrun
  · cases hrun
    exact hthere target
  · cases hrun
    exact h.storage _ _ _

theorem openLedger (path : String) : StopsAs (openLedger (σ := σ) path) kind := by
  intro world stop after hrun
  rw [Generator.openLedger, Ledger.create] at hrun
  cases hopen : world.disk.openForWriting path with
  | ok opened =>
    rw [hopen] at hrun
    cases hrun
  | error cause =>
    rw [hopen] at hrun
    cases hrun
    exact h.storage _ _ _

variable [WordSource σ]

/-- A range that is empty for faulty settings only. -/
theorem between {low high : UInt64} (hrange : generator.settings.fault? = none → low ≤ high) :
    StopsAs (Making.draw (σ := σ) (Draw.between generator.patience low high)) kind := by
  by_cases hle : low ≤ high
  · exact h.draw (Draw.gives_between _ hle)
  · intro plot stop after hrun
    have hempty : Making.draw (Draw.between generator.patience low high) plot =
        .error (.mishap .emptyRange) plot := by
      rw [Making.draw, onWorld, Act.draw, Draw.between, if_pos (UInt64.not_le.1 hle)]
      rfl
    rw [hempty] at hrun
    cases hrun
    exact h.emptyRange fun hvalid => hle (hrange hvalid)

/-- A tag is drawn by a sample, from the pool or as an identifier. -/
theorem pickTag : StopsAs (generator.pickTag (σ := σ)) kind := by
  refine (h.draw Draw.gives_unit).bind fun sample => ?_
  refine StopsAs.ite (StopsAs.get.bind fun plot => ?_) (h.nextIdentifier _)
  refine (h.draw (Draw.gives_choose _ _)).bind fun choice => ?_
  cases choice with
  | none => exact h.nextIdentifier _
  | some tag => exact StopsAs.pure tag

theorem tagTimes (file : String) (count : Nat) (taken : List String) :
    StopsAs (generator.tagTimes (σ := σ) file count taken) kind := by
  induction count generalizing taken with
  | zero => exact StopsAs.pure ()
  | succ count ih =>
    have hpick : StopsAs (generator.pickOtherTag (σ := σ) taken) kind :=
      StopsAs.retry h.stalled (h.pickTag.bind fun tag => StopsAs.pure _) _
    refine hpick.bind fun tag => ?_
    refine (StopsAs.modify _).bind fun _ => ?_
    refine (h.record _ _).bind fun _ => ?_
    exact StopsAs.get.bind fun plot => StopsAs.ite (StopsAs.pure ()) (ih (tag :: taken))

/-- A file may be refused by the disk before it is tagged. -/
theorem plantFile (directory : String) :
    StopsAs (generator.plantFile (σ := σ) directory) kind := by
  refine (h.nextIdentifier _).bind fun identifier => ?_
  refine (h.between fun _ => UInt64.zero_le).bind fun length => ?_
  refine (h.draw (Draw.gives_bytes _)).bind fun payload => ?_
  refine (h.onDisk _ _ _).bind fun _ => ?_
  refine (StopsAs.modify _).bind fun _ => ?_
  refine (h.between fun hvalid => (Settings.bounds_of_valid hvalid).2).bind fun count => ?_
  exact h.tagTimes _ _ _

/-- The ranges of slots and files are empty for faulty settings only. -/
theorem fillWith (directory : String) (depth : Nat) {slot : Making σ Unit}
    (hslot : StopsAs slot kind) : StopsAs (generator.fillWith directory depth slot) kind := by
  refine (h.between fun hvalid => (Settings.bounds_of_valid hvalid).1).bind fun slots => ?_
  refine (hslot.times _).bind fun _ => ?_
  refine (h.between fun _ => UInt64.zero_le).bind fun files => ?_
  refine ((h.plantFile directory).times _).bind fun _ => ?_
  intro plot stop after hreport
  cases hreport

theorem fill (levels : Nat) (directory : String) :
    StopsAs (generator.fill (σ := σ) levels directory) kind := by
  induction levels generalizing directory with
  | zero =>
    refine h.fillWith _ _ ?_
    exact (h.nextIdentifier _).bind fun _ => StopsAs.pure ()
  | succ levels ih =>
    refine h.fillWith _ _ ?_
    refine (h.nextIdentifier _).bind fun name => ?_
    refine (h.onDisk _ _ _).bind fun _ => ?_
    exact (StopsAs.modify _).bind fun _ => ih _

theorem grow (target : String) (ledger : Ledger) :
    StopsAs (generator.grow (σ := σ) target ledger) kind := by
  intro world stop after hrun
  rw [Generator.grow] at hrun
  cases hfill : generator.fill generator.settings.depth.toNat target (startPlot world ledger) with
  | error reason plot =>
    rw [hfill] at hrun
    cases hrun
    exact h.fill _ _ _ _ _ hfill
  | ok _ plot =>
    rw [hfill, close, Ledger.finish] at hrun
    cases hflush : Ledger.flush (plot.ledger, plot.disk) with
    | ok _ written =>
      rw [hflush] at hrun
      cases hrun
    | error cause written =>
      rw [hflush] at hrun
      cases hrun
      exact h.storage _ _ _

/-- A call can stop for the same, and before its ledger is open for its name and for what is there
    already. -/
theorem generate {name : String} (hname : kind (.failed (.invalid (.nameNotPlain name))))
    (hthere : ∀ path, kind (.failed (.alreadyExists path))) :
    StopsAs (generator.generate (σ := σ) name) kind := by
  have hopen : StopsAs (generator.openFixture (σ := σ) name) kind := by
    refine StopsAs.ite ?_ ?_
    · refine (h.makeRoot _).bind fun _ => ?_
      refine (h.resolveRoot _).bind fun _ => ?_
      refine (h.makeTarget hthere _).bind fun _ => ?_
      exact (h.openLedger _).bind fun _ => StopsAs.pure _
    · intro world stop after hrun
      cases hrun
      exact hname
  refine hopen.bind fun opening => ?_
  exact (StopsAs.modify _).bind fun _ => h.grow _ _

end Covers

variable [WordSource σ]

/-- **A fixture whose ledger is open stops for mishaps and for what the disk refuses.** -/
theorem grow_stopsAs (generator : Generator) (target : String) (ledger : Ledger) :
    StopsAs (generator.grow (σ := σ) target ledger) Stop.IsAccident :=
  generator.covers_isAccident.grow target ledger

/-! ## The point of refusal

  A failure that is no accident was there before the ledger was. -/

variable {generator : Generator} {name path : String} {world after : World σ}

/-- A call that ends for something else than an accident has ended while its fixture was opened. -/
theorem openFixture_of_generate_error {stop : Stop}
    (h : generator.generate name world = .error stop after) (hstop : ¬ stop.IsAccident) :
    generator.openFixture name world = .error stop after := by
  cases hopening : generator.openFixture name world with
  | ok opening opened =>
    rw [generate, run_bind_of_ok hopening] at h
    exact absurd (grow_stopsAs generator _ _ _ _ _ h) hstop
  | error stop opened =>
    rw [generate, run_bind_of_error hopening] at h
    cases h
    rfl

/-- **Where a call is refused because something is there already**: the root was made or found,
    and the fixture's directory could not be made in it.  Of the stages of the opening only that
    one stops so. -/
theorem generate_eq_alreadyExists
    (h : generator.generate name world = .error (.failed (.alreadyExists path)) after) :
    ∃ base, Path.isPlainName name = true ∧ makeRoot generator.settings.root world = .ok () after ∧
      after.disk.resolve generator.settings.root = .ok base ∧
      after.disk.makeDirectory (Path.ofPlace (name :: base)) = .error .alreadyThere := by
  have hopens := openFixture_opens generator name world
  rw [openFixture_of_generate_error h id] at hopens
  cases hopens with
  | noRoot hrooted => cases generator.covers_isAccident.makeRoot _ _ _ _ hrooted
  | noLedger _ _ _ _ _ _ hledger => cases generator.covers_isAccident.openLedger _ _ _ _ hledger
  | @noTarget base _ rooted _ hplain hrooted hresolve htarget =>
    rw [makeTarget] at htarget
    split at htarget
    · cases htarget
    · rename_i hthere
      cases htarget
      exact ⟨base, hplain, hrooted, hresolve, hthere⟩
    · cases htarget

/-- **Where a call is refused for a parameter**: before anything is done, for the name. -/
theorem generate_eq_invalid {fault : Fault}
    (h : generator.generate name world = .error (.failed (.invalid fault)) after) :
    ¬ Path.isPlainName name = true ∧ fault = .nameNotPlain name ∧ after = world := by
  have hopens := openFixture_opens generator name world
  rw [openFixture_of_generate_error h id] at hopens
  cases hopens with
  | badName hplain => exact ⟨hplain, rfl, rfl⟩
  | noRoot hrooted => cases generator.covers_isAccident.makeRoot _ _ _ _ hrooted
  | noTarget _ _ _ htarget =>
    rw [makeTarget] at htarget
    split at htarget <;> cases htarget
  | noLedger _ _ _ _ _ _ hledger => cases generator.covers_isAccident.openLedger _ _ _ _ hledger

/-- With settings that no check refuses no number from an empty range is asked for. -/
theorem generate_ne_emptyRange (hvalid : generator.settings.fault? = none) :
    generator.generate name world ≠ .error (.mishap .emptyRange) after := by
  have hcovers : generator.Covers fun stop => stop ≠ .mishap .emptyRange :=
    ⟨nofun, nofun, fun hfault => absurd hvalid hfault⟩
  intro h
  exact hcovers.generate nofun nofun world _ _ h rfl

/-- In a directory where there is nothing no fixture is there already. -/
theorem makeDirectory_ne_alreadyThere {disk : Disk} {base : Place}
    (hplain : Path.isPlainName name = true) (hbase : disk.get? base = some .directory)
    (hfree : disk.get? (name :: base) = none) :
    disk.makeDirectory (Path.ofPlace (name :: base)) ≠ .error .alreadyThere := by
  by_cases hnul : '\x00' ∈ name.toList
  · rw [Disk.makeDirectory_ofPlace_of_nul hnul]
    simp
  · rw [Disk.makeDirectory_ofPlace (Path.isStep_of_isPlainName hplain hnul) hbase, if_pos hfree]
    split <;> simp

/-- **What a refused call leaves behind.**  If a call is refused because its fixture is there
    already, the disk has perhaps some directories more than before, and nothing else is changed.
    It is as it was if and only if the root was there; and if the path of the root has no step to
    the directory above, it is as it was in any case. -/
theorem refusal_leaves_disk
    (h : generator.generate name world = .error (.failed (.alreadyExists path)) after) :
    Disk.AddsDirectories world.disk after.disk ∧
      (after.disk = world.disk ↔ world.disk.pathExists generator.settings.root = true) ∧
      (".." ∉ Path.split generator.settings.root → after.disk = world.disk) := by
  obtain ⟨base, hplain, hrooted, hresolve, hthere⟩ := generate_eq_alreadyExists h
  refine ⟨makeRoot_adds hrooted, ?_⟩
  rcases makeRoot_eq_ok hrooted with ⟨hexists, rfl⟩ | ⟨hexists, disk, hmade, rfl⟩
  · exact ⟨iff_of_true rfl hexists, fun _ => rfl⟩
  · -- what resolves exists, so the disk is another one
    have hchanged : disk ≠ world.disk := by
      rintro rfl
      exact hexists (Disk.pathExists_of_resolve hresolve)
    refine ⟨iff_of_false hchanged hexists, ?_⟩
    intro habove
    rcases Disk.bare_of_makeDirectories habove hmade with hsame | hbare
    · exact hsame
    · -- the root was made just now, so the fixture is not in it
      obtain ⟨entry, hfind⟩ := Disk.resolve_eq_ok hresolve
      have hleads := (Disk.leadsTo_iff_of_findAt (fun _ => rfl) hfind).2 rfl
      obtain ⟨hbase, hempty⟩ := hbare base hleads
      exact absurd hthere (makeDirectory_ne_alreadyThere hplain hbase (hempty name))

/-- The little generator refuses to make what is below the top of the disk already, and leaves the
    disk as it was. -/
theorem little_refusal_leaves_disk :
    ∃ after, little.generate "r" World.roomy = .error (.failed (.alreadyExists "/r")) after ∧
      after.disk = World.roomy.disk ∧
      Disk.AddsDirectories World.roomy.disk after.disk ∧
      (after.disk = World.roomy.disk ↔ World.roomy.disk.pathExists little.settings.root = true) ∧
      (".." ∉ Path.split little.settings.root → after.disk = World.roomy.disk) := by
  have hrefusal : (refusal? (little.generate "r" World.roomy)).map
      (fun refusal => (refusal.1, ())) = some (.failed (.alreadyExists "/r"), ()) := by
    decide +kernel
  obtain ⟨after, hgenerate, -⟩ := exists_of_refusal? (fun _ => ()) hrefusal
  have hleft := refusal_leaves_disk hgenerate
  exact ⟨after, hgenerate, hleft.2.2 (by decide +kernel), hleft⟩

/-- With a step to the directory above in its path a root can be missing and yet hold the fixture:
    where there is no `a`, the root `/a/../b` does not exist until `a` is made.  So a refused call
    need not leave the disk as it was. -/
theorem refusal_changes_disk :
    ¬ ∀ (generator : Generator) (name path : String) (world after : World Steady),
      generator.generate name world = .error (.failed (.alreadyExists path)) after →
        after.disk = world.disk := by
  intro hunchanged
  have hfree : World.occupied.disk.get? ["a"] = none := by decide +kernel
  have hrefusal : (refusal? ((little.withRoot "/a/../b").generate "f" World.occupied)).map
      (fun refusal => (refusal.1, refusal.2.disk.get? ["a"])) =
        some (.failed (.alreadyExists "/b/f"), some .directory) := by
    decide +kernel
  obtain ⟨after, hgenerate, hmade⟩ :=
    exists_of_refusal? (fun after : World Steady => after.disk.get? ["a"]) hrefusal
  rw [hunchanged _ _ _ _ _ hgenerate, hfree] at hmade
  cases hmade

end Generator

end Thicket
