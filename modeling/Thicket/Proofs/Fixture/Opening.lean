/-
  The opening of a fixture.

  Nothing is drawn while a fixture is being opened, however that ends (`openFixture_keepsSource`).

  The opening goes through stages, each of which may be the last one (`openFixture_opens`): the
  name is looked at, the root is made if it is missing and resolved, the directory of the fixture
  is made, and the ledger is opened.  When it succeeds, the fixture directory is a new entry,
  called `name`, of the directory that the root resolves to, and the ledger is about to be written
  beside it (`openFixture_eq_ok`).

  `Opens` has one constructor for each stage, and each constructor keeps what the stages before it
  have done.  So the program is taken apart once, in `openFixture_opens`; whatever is said of
  refused or failed calls later is a case distinction on `Opens`.

  Up to the resolved root everything is a matter of paths, and from there on of places: both
  fixture and ledger are names in the directory that the root was resolved to (`openFixture_eq`).
-/
import Thicket.Proofs.Disk.PlainName
import Thicket.Proofs.Disk.Route
import Thicket.Proofs.Sketch.Simulation

namespace Thicket

variable {σ : Type}

/-! ## The source

  The opening works on disk and reports; the source is handed through every step. -/

/-- The step takes no word from the source, whether it succeeds or fails. -/
def Act.KeepsSource {α : Type} (act : Act σ α) : Prop :=
  ∀ world, match act world with
    | .ok _ after => after.source = world.source
    | .error _ after => after.source = world.source

theorem Act.KeepsSource.bind {α β : Type} {act : Act σ α} {next : α → Act σ β}
    (h : act.KeepsSource) (h' : ∀ a, (next a).KeepsSource) : (act >>= next).KeepsSource := by
  intro world
  have hact := h world
  cases hresult : act world with
  | error stop after =>
    rw [hresult] at hact
    rw [run_bind_of_error hresult]
    exact hact
  | ok a after =>
    rw [hresult] at hact
    have hnext := h' a after
    rw [run_bind_of_ok hresult]
    cases hresult' : next a after with
    | ok b last =>
      rw [hresult'] at hnext
      exact hnext.trans hact
    | error stop last =>
      rw [hresult'] at hnext
      exact hnext.trans hact

namespace Generator

theorem makeRoot_keepsSource (root : String) : (makeRoot (σ := σ) root).KeepsSource := by
  intro world
  rw [makeRoot]
  by_cases hexists : world.disk.pathExists root = true
  · rw [if_pos hexists]
  · rw [if_neg hexists]
    cases world.disk.makeDirectories root with
    | mk outcome disk => cases outcome <;> rfl

theorem resolveRoot_keepsSource (root : String) : (resolveRoot (σ := σ) root).KeepsSource := by
  intro world
  rw [resolveRoot]
  cases world.disk.resolve root <;> rfl

theorem makeTarget_keepsSource (target : String) : (makeTarget (σ := σ) target).KeepsSource := by
  intro world
  rw [makeTarget]
  cases world.disk.makeDirectory target with
  | ok disk => rfl
  | error cause => cases cause <;> rfl

theorem openLedger_keepsSource (path : String) : (openLedger (σ := σ) path).KeepsSource := by
  intro world
  rw [openLedger]
  cases Ledger.create world.disk path with
  | ok opened => rfl
  | error failure => rfl

/-- **Opening a fixture takes no word from the source**, whether it succeeds or fails. -/
theorem openFixture_keepsSource (generator : Generator) (name : String) :
    (generator.openFixture (σ := σ) name).KeepsSource := by
  rw [openFixture]
  split
  · refine (makeRoot_keepsSource _).bind fun _ => ?_
    refine (resolveRoot_keepsSource _).bind fun _ => ?_
    refine (makeTarget_keepsSource _).bind fun _ => ?_
    exact (openLedger_keepsSource _).bind fun _ => fun _ => rfl
  · exact fun _ => rfl

/-- An opened fixture finds the source as the call did. -/
theorem source_of_openFixture {generator : Generator} {name target : String} {ledger : Ledger}
    {world opened : World σ} (h : generator.openFixture name world = .ok (target, ledger) opened) :
    opened.source = world.source := by
  have hkeeps := generator.openFixture_keepsSource name world
  rw [h] at hkeeps
  exact hkeeps

/-! ## The root

  Whether the root is there is asked by looking its path up; then it is resolved, and from then
  on its path is not used any more. -/

/-- The place that the root resolves to, once it was made if need be. -/
def base? (generator : Generator) (world : World σ) : Option Place :=
  match makeRoot generator.settings.root world with
  | .ok _ rooted => (rooted.disk.resolve generator.settings.root).toOption
  | .error _ _ => none

/-- The base is where the root resolves to once it was made. -/
theorem base?_eq {generator : Generator} {world rooted : World σ} {base : Place}
    (hrooted : makeRoot generator.settings.root world = .ok () rooted)
    (hresolve : rooted.disk.resolve generator.settings.root = .ok base) :
    generator.base? world = some base := by
  rw [base?, hrooted]
  simp [hresolve, Except.toOption]

/-- Where the root is there, it is not made. -/
theorem makeRoot_of_resolve {root : String} {world : World σ} {base : Place}
    (h : world.disk.resolve root = .ok base) : makeRoot root world = .ok () world := by
  rw [makeRoot, if_pos (Disk.pathExists_of_resolve h)]

/-- Where the root resolves at once, the base is the place of it. -/
theorem base?_of_resolve {generator : Generator} {world : World σ} {base : Place}
    (h : world.disk.resolve generator.settings.root = .ok base) :
    generator.base? world = some base :=
  base?_eq (makeRoot_of_resolve h) h

/-- The root was there, or it and what was missing above it were made. -/
theorem makeRoot_eq_ok {root : String} {world rooted : World σ}
    (h : makeRoot root world = .ok () rooted) :
    world.disk.pathExists root = true ∧ rooted = world ∨
      ¬ world.disk.pathExists root = true ∧
        ∃ disk, world.disk.makeDirectories root = (.ok (), disk) ∧
          rooted = { world with disk, notices := world.notices.push (.rootMissing root) } := by
  rw [makeRoot] at h
  by_cases hexists : world.disk.pathExists root = true
  · rw [if_pos hexists] at h
    cases h
    exact Or.inl ⟨hexists, rfl⟩
  · rw [if_neg hexists] at h
    cases hmade : world.disk.makeDirectories root with
    | mk outcome disk =>
      rw [hmade] at h
      cases outcome with
      | ok _ =>
        cases h
        exact Or.inr ⟨hexists, disk, rfl, rfl⟩
      | error cause => cases h

/-- Making the root adds directories and nothing else. -/
theorem makeRoot_adds {root : String} {world rooted : World σ}
    (h : makeRoot root world = .ok () rooted) : Disk.AddsDirectories world.disk rooted.disk := by
  rcases makeRoot_eq_ok h with ⟨-, rfl⟩ | ⟨-, disk, hmade, rfl⟩
  · exact Disk.AddsDirectories.refl _
  · have hadds := world.disk.makeDirectories_adds root
    rw [hmade] at hadds
    exact hadds

/-! ## Stages

  What the two operations do that come after the resolving, at the places of fixture and ledger. -/

/-- Once the root is resolved, opening goes on at places. -/
theorem openFixture_eq {generator : Generator} {name : String} {world rooted : World σ}
    {base : Place} (hplain : Path.isPlainName name = true)
    (hrooted : makeRoot generator.settings.root world = .ok () rooted)
    (hresolve : rooted.disk.resolve generator.settings.root = .ok base) :
    generator.openFixture name world =
      (makeTarget (Path.ofPlace (name :: base)) >>= fun _ =>
        openLedger (Path.ofPlace ((name ++ ledgerSuffix) :: base)) >>= fun ledger =>
          pure (Path.ofPlace (name :: base), ledger)) rooted := by
  have hsteps := Disk.isStep_of_mem (Disk.get?_of_resolve hresolve).1
  have hresolveRoot : resolveRoot generator.settings.root rooted =
      .ok (Path.ofPlace base) rooted := by
    rw [resolveRoot, hresolve]
  rw [openFixture, if_pos hplain, run_bind_of_ok hrooted, run_bind_of_ok hresolveRoot]
  simp only [Path.join_ofPlace hsteps]

/-- The fixture's directory is made where there is nothing, and refused for what is there. -/
theorem makeTarget_ofPlace {name : String} {base : Place} {world : World σ}
    (hname : Path.IsStep name) (hbase : world.disk.get? base = some .directory) :
    makeTarget (Path.ofPlace (name :: base)) world =
      if Path.isSpellable (name :: base) then
        if world.disk.get? (name :: base) = none then
          .ok () { world with disk := world.disk.add base name .directory }
        else .error (.failed (.alreadyExists (Path.ofPlace (name :: base)))) world
      else .error (.failed (.storage .createFixtureDirectory (Path.ofPlace (name :: base))
        .nameTooLong)) world := by
  rw [makeTarget, Disk.makeDirectory_ofPlace hname hbase]
  by_cases hspell : Path.isSpellable (name :: base) = true
  · by_cases hfree : world.disk.get? (name :: base) = none
    · simp [hspell, hfree]
    · simp [hspell, hfree]
  · simp [hspell]

/-- A ledger is opened at its place, if there is no link there: the answer depends on what is
    there, which may be nothing, a file, the full device or a directory.  A file that is
    replaced is reported. -/
theorem openLedger_ofPlace {name : String} {base : Place} {world : World σ}
    (hname : Path.IsStep name) (hbase : world.disk.get? base = some .directory)
    (hlink : ∀ target, world.disk.get? (name :: base) ≠ some (.link target)) :
    openLedger (Path.ofPlace (name :: base)) world =
      let path := Path.ofPlace (name :: base)
      let notices := world.notices ++ (Ledger.openingNotices world.disk path).toArray
      let opened (sink : Disk.Sink) (disk : Disk) : EStateM.Result Stop (World σ) Ledger :=
        .ok { path, sink, buffer := .empty, entries := 0 } { world with disk, notices }
      let refused (cause : Cause) : EStateM.Result Stop (World σ) Ledger :=
        .error (.failed (.storage .createLedger path cause)) { world with notices }
      if Path.isSpellable (name :: base) then
        match world.disk.get? (name :: base) with
        | none => opened (.file (name :: base) 0) (world.disk.add base name (.file .empty))
        | some (.file _) =>
          opened (.file (name :: base) 0) (world.disk.setContent (name :: base) .empty)
        | some .fullDevice => opened .full world.disk
        | some _ => refused .isDirectory
      else refused .nameTooLong := by
  rw [openLedger, Ledger.create, Disk.openForWriting_ofPlace hname hbase hlink]
  by_cases hspell : Path.isSpellable (name :: base) = true
  · simp only [if_pos hspell]
    cases hentry : world.disk.get? (name :: base) with
    | none => rfl
    | some entry => cases entry <;> rfl
  · simp only [if_neg hspell]

/-! ## How far the opening comes

  The name of a fixture is not known to be free of NULs until its directory could be made. -/

/-- Where the fixture directory could be made, it has a name and a directory to be in.  The
    cases are those of the operation, and all but the last have another end. -/
theorem makeTarget_eq_ok {name : String} {base : Place} {world after : World σ}
    (hplain : Path.isPlainName name = true) (hexists : world.disk.get? base ≠ none)
    (hlink : ∀ target, world.disk.get? base ≠ some (.link target))
    (h : makeTarget (Path.ofPlace (name :: base)) world = .ok () after) :
    Path.IsStep name ∧ world.disk.get? base = some .directory ∧
      Path.isSpellable (name :: base) = true ∧ world.disk.get? (name :: base) = none ∧
      after = { world with disk := world.disk.add base name .directory } := by
  have hmade : ∃ made, world.disk.makeDirectory (Path.ofPlace (name :: base)) = .ok made := by
    rw [makeTarget] at h
    split at h
    · rename_i made hmade
      exact ⟨made, hmade⟩
    · cases h
    · cases h
  obtain ⟨made, hmade⟩ := hmade
  have hnul : '\x00' ∉ name.toList := by
    intro hnul
    rw [Disk.makeDirectory_ofPlace_of_nul hnul] at hmade
    cases hmade
  have hname : Path.IsStep name := Path.isStep_of_isPlainName hplain hnul
  have hbase : world.disk.get? base = some .directory := by
    by_contra hne
    obtain ⟨cause, harrive⟩ := Disk.arrive_ofPlace_of_not_directory hname hexists hne hlink
    rw [Disk.makeDirectory, Disk.stopping, harrive] at hmade
    cases hmade
  rw [makeTarget_ofPlace hname hbase] at h
  -- had the path been too long, or something been there, the operation would have said so
  by_cases hspell : Path.isSpellable (name :: base) = true
  · rw [if_pos hspell] at h
    by_cases hfree : world.disk.get? (name :: base) = none
    · rw [if_pos hfree] at h
      cases h
      exact ⟨hname, hbase, hspell, hfree, rfl⟩
    · rw [if_neg hfree] at h
      cases h
  · rw [if_neg hspell] at h
    cases h

/-- What an opened fixture rests on: its directory is new, and its ledger is about to be opened. -/
structure Founded (name : String) (base : Place) (rooted : World σ) (target : String)
    (ledger : Ledger) (opened : World σ) : Prop where
  name_isStep : Path.IsStep name
  base_directory : rooted.disk.get? base = some .directory
  target_spellable : Path.isSpellable (name :: base) = true
  target_free : rooted.disk.get? (name :: base) = none
  target_eq : target = Path.ofPlace (name :: base)
  ledger_opened : openLedger (Path.ofPlace ((name ++ ledgerSuffix) :: base))
    { rooted with disk := rooted.disk.add base name .directory } = .ok ledger opened

/-- How the opening of a fixture can end: each stage may be the last one, and what the stages before
    it have done is known. -/
inductive Opens (generator : Generator) (name : String) (world : World σ) :
    EStateM.Result Stop (World σ) (String × Ledger) → Prop
  | badName (hplain : ¬ Path.isPlainName name = true) :
    Opens generator name world (.error (.failed (.invalid (.nameNotPlain name))) world)
  | noRoot {stop : Stop} {after : World σ}
    (hrooted : makeRoot generator.settings.root world = .error stop after) :
    Opens generator name world (.error stop after)
  | lostRoot {cause : Cause} {rooted : World σ}
    (hrooted : makeRoot generator.settings.root world = .ok () rooted)
    (hresolve : rooted.disk.resolve generator.settings.root = .error cause) :
    Opens generator name world
      (.error (.failed (.storage .resolveTestRoot generator.settings.root cause)) rooted)
  | noTarget {base : Place} {stop : Stop} {rooted after : World σ}
    (hplain : Path.isPlainName name = true)
    (hrooted : makeRoot generator.settings.root world = .ok () rooted)
    (hresolve : rooted.disk.resolve generator.settings.root = .ok base)
    (htarget : makeTarget (Path.ofPlace (name :: base)) rooted = .error stop after) :
    Opens generator name world (.error stop after)
  | noLedger {base : Place} {stop : Stop} {rooted after : World σ}
    (hrooted : makeRoot generator.settings.root world = .ok () rooted)
    (hresolve : rooted.disk.resolve generator.settings.root = .ok base)
    (hname : Path.IsStep name) (hbase : rooted.disk.get? base = some .directory)
    (hspell : Path.isSpellable (name :: base) = true)
    (hfree : rooted.disk.get? (name :: base) = none)
    (hledger : openLedger (Path.ofPlace ((name ++ ledgerSuffix) :: base))
      { rooted with disk := rooted.disk.add base name .directory } = .error stop after) :
    Opens generator name world (.error stop after)
  | opened {base : Place} {rooted opened : World σ} {target : String} {ledger : Ledger}
    (hplain : Path.isPlainName name = true)
    (hrooted : makeRoot generator.settings.root world = .ok () rooted)
    (hresolve : rooted.disk.resolve generator.settings.root = .ok base)
    (hfounded : Founded name base rooted target ledger opened) :
    Opens generator name world (.ok (target, ledger) opened)

/-- **The opening of a fixture ends at one of its stages.** The proof follows the program down
    to the stage where it ends; what the stages before have done is in the hands of the
    constructor. -/
theorem openFixture_opens (generator : Generator) (name : String) (world : World σ) :
    Opens generator name world (generator.openFixture name world) := by
  by_cases hplain : Path.isPlainName name = true
  · cases hrooted : makeRoot generator.settings.root world with
    | error stop after =>
      rw [openFixture, if_pos hplain, run_bind_of_error hrooted]
      exact .noRoot hrooted
    | ok _ rooted =>
      cases hresolve : rooted.disk.resolve generator.settings.root with
      | error cause =>
        have hrefused : resolveRoot generator.settings.root rooted =
            .error (.failed (.storage .resolveTestRoot generator.settings.root cause)) rooted := by
          rw [resolveRoot, hresolve]
        rw [openFixture, if_pos hplain, run_bind_of_ok hrooted, run_bind_of_error hrefused]
        exact .lostRoot hrooted hresolve
      | ok base =>
        obtain ⟨hexists, hlink⟩ := Disk.get?_of_resolve hresolve
        rw [openFixture_eq hplain hrooted hresolve]
        cases htarget : makeTarget (Path.ofPlace (name :: base)) rooted with
        | error stop after =>
          rw [run_bind_of_error htarget]
          exact .noTarget hplain hrooted hresolve htarget
        | ok _ made =>
          obtain ⟨hname, hbase, hspell, hfree, rfl⟩ :=
            makeTarget_eq_ok hplain hexists hlink htarget
          rw [run_bind_of_ok htarget]
          cases hledger : openLedger (Path.ofPlace ((name ++ ledgerSuffix) :: base))
              { rooted with disk := rooted.disk.add base name .directory } with
          | error stop after =>
            rw [run_bind_of_error hledger]
            exact .noLedger hrooted hresolve hname hbase hspell hfree hledger
          | ok ledger opened =>
            rw [run_bind_of_ok hledger]
            exact .opened hplain hrooted hresolve ⟨hname, hbase, hspell, hfree, rfl, hledger⟩
  · rw [openFixture, if_neg hplain]
    exact .badName hplain

/-- **What a successful opening has done.** -/
theorem openFixture_eq_ok {generator : Generator} {name target : String} {ledger : Ledger}
    {world opened : World σ} (h : generator.openFixture name world = .ok (target, ledger) opened) :
    ∃ base rooted, generator.base? world = some base ∧
      makeRoot generator.settings.root world = .ok () rooted ∧
      Founded name base rooted target ledger opened := by
  have hopens := openFixture_opens generator name world
  rw [h] at hopens
  cases hopens with
  | opened _ hrooted hresolve hfounded =>
    exact ⟨_, _, base?_eq hrooted hresolve, hrooted, hfounded⟩

end Generator

end Thicket
