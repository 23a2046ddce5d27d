/-
  Finished fixtures stay as they are.

  Several generators make fixtures in one directory, one call after the other (`Chained`).

  1. **Fixtures that stand** — a call that comes to work at all raises a fixture with another
     name, and this misses the directory and the ledger of every fixture that stands already
     (`Raised.spares_standing`), also where the one's directory is called like the other's ledger:
     whichever of the two is there first keeps the place.
  2. **One call** — it does nothing or raises its fixture (`generate_raises`), and if it finds
     something under its name it is refused (`refused_of_taken`).
  3. **Many calls** — a fixture is standing from the moment that its call has succeeded, and no
     later call, whether it succeeds or not, ends that (`standing_of_left`).  So, by induction
     along the calls, nothing in it changes any more (`finished_fixture_stays`).

  Standing asks less than being complete: that the directory is there and something is at the
  ledger's place.  This is all that keeps a later call away, and it is what each call preserves.

  There must be no links in the directory, or a ledger could be opened through one and an older
  file be emptied.  The calls make none, so this holds from the first call to the last.
-/
import Thicket.Proofs.Fixture.Confinement
import Thicket.Proofs.Fixture.Reproduction

namespace Thicket

variable {σ : Type}

/-- A call to one of several generators. -/
structure Visit (σ : Type) extends Call σ where
  generator : Generator

namespace Generator

/-! ## Fixtures that stand

  The two places of a fixture are its directory, with all that is below it, and its ledger. -/

/-- No entry of the directory is a link. -/
def Unlinked (base : Place) (disk : Disk) : Prop :=
  ∀ name target, disk.get? (name :: base) ≠ some (.link target)

/-- There is a fixture directory of that name in the base directory, and a ledger beside it. -/
structure Standing (name : String) (base : Place) (disk : Disk) : Prop where
  top : disk.get? (name :: base) = some .directory
  ledger : disk.get? (ledgerPlace name base) ≠ none

/-- The places that belong to a fixture: its tree and its ledger. -/
def Belongs (name : String) (base place : Place) : Prop :=
  (name :: base) <:+ place ∨ place = ledgerPlace name base

variable {name other : String} {base place : Place} {before after : Disk}

/-- A place is in one of two sibling directories only. -/
theorem suffix_siblings {name other : String} {base place : Place}
    (h : (name :: base) <:+ place) (h' : (other :: base) <:+ place) : name = other := by
  have hsame := List.suffix_of_suffix_length_le h h' (by simp)
  exact (List.cons.inj (hsame.eq_of_length (by simp))).1

/-- **A raised fixture misses every fixture that stands.** -/
theorem Raised.spares_standing (h : Raised other base before after)
    (hstanding : Standing name base before) (hplace : Belongs name base place) :
    after.get? place = before.get? place := by
  have hne : name ≠ other := by
    rintro rfl
    have hfree := h.target_free
    rw [hstanding.top] at hfree
    cases hfree
  rcases hplace with hinside | rfl
  · -- a place in the tree of the one is not in the tree of the other
    have hout : ¬ (other :: base) <:+ place := fun hother => hne (suffix_siblings hinside hother)
    by_cases hledger : place = ledgerPlace other base
    · -- the new fixture's ledger would have to be where the standing one's directory is
      subst hledger
      have htop : ledgerPlace other base = name :: base :=
        (hinside.eq_of_length rfl).symm
      rcases h.ledger with hsame | ⟨hfree | ⟨content, hfile⟩, -⟩
      · exact hsame
      · rw [htop, hstanding.top] at hfree
        cases hfree
      · rw [htop, hstanding.top] at hfile
        cases hfile
    · exact h.outside place hout hledger
  · refine h.outside _ ?_ ?_
    · -- the new fixture's directory would have to be where the standing one's ledger is
      intro hother
      have htop : other :: base = ledgerPlace name base := hother.eq_of_length rfl
      have hfree := h.target_free
      rw [htop] at hfree
      exact hstanding.ledger hfree
    · intro hsame
      have hnames : (name ++ ledgerSuffix).toList = (other ++ ledgerSuffix).toList :=
        congrArg String.toList (List.cons.inj hsame).1
      rw [String.toList_append, String.toList_append] at hnames
      exact hne (String.toList_inj.1 (List.append_cancel_right hnames))

/-- Raising a fixture makes no link in the directory. -/
theorem Raised.unlinked (h : Raised name base before after) (hunlinked : Unlinked base before) :
    Unlinked base after := by
  intro entry target hlink
  by_cases htop : entry = name
  · subst htop
    rw [h.target_made] at hlink
    cases hlink
  · by_cases hledger : entry :: base = ledgerPlace name base
    · rw [hledger] at hlink
      rcases h.ledger with hsame | ⟨-, content, hfile⟩
      · rw [hsame, ← hledger] at hlink
        exact hunlinked entry target hlink
      · rw [hfile] at hlink
        cases hlink
    · have hout : ¬ (name :: base) <:+ entry :: base := by
        intro hinside
        exact htop (suffix_siblings hinside List.suffix_rfl).symm
      rw [h.outside _ hout hledger] at hlink
      exact hunlinked entry target hlink

/-! ## One call

  With the root there, making it does nothing, and the base is where it resolves to. -/

variable [WordSource σ]

/-- A call whose root is there does nothing, or it raises its fixture. -/
theorem generate_raises {generator : Generator} {world : World σ}
    (hunlinked : Unlinked base world.disk)
    (hresolve : world.disk.resolve generator.settings.root = .ok base) :
    (stateLeft (generator.generate name world)).disk = world.disk ∨
      Raised name base world.disk (stateLeft (generator.generate name world)).disk := by
  have hbase := base?_of_resolve hresolve
  have hledger : generator.LedgerUnlinked name world := by
    intro base' hbase' target
    cases hbase.symm.trans hbase'
    exact hunlinked _ target
  have hrooted := rootedDisk_eq_of_pathExists (Disk.pathExists_of_resolve hresolve)
  rcases generate_effects hledger with hsame | hsame | ⟨base', hbase', hraised⟩
  · exact Or.inl hsame
  · exact Or.inl (hsame.trans hrooted)
  · cases hbase.symm.trans hbase'
    rw [hrooted] at hraised
    exact Or.inr hraised

/-- A call is refused where something has its name already, and leaves the world as it was. -/
theorem refused_of_taken {generator : Generator} {world : World σ}
    (hresolve : world.disk.resolve generator.settings.root = .ok base)
    (hplain : Path.isPlainName name = true) (hname : Path.IsStep name)
    (hspell : Path.isSpellable (name :: base) = true)
    (hbase : world.disk.get? base = some .directory)
    (htaken : world.disk.get? (name :: base) ≠ none) :
    generator.generate name world =
      .error (.failed (.alreadyExists (Path.ofPlace (name :: base)))) world := by
  have htarget : makeTarget (Path.ofPlace (name :: base)) world =
      .error (.failed (.alreadyExists (Path.ofPlace (name :: base)))) world := by
    rw [makeTarget_ofPlace hname hbase, if_pos hspell, if_neg htaken]
  have hopen : generator.openFixture name world =
      .error (.failed (.alreadyExists (Path.ofPlace (name :: base)))) world := by
    rw [openFixture_eq hplain (makeRoot_of_resolve hresolve) hresolve]
    exact run_bind_of_error htarget
  rw [generate, run_bind_of_error hopen]

/-- A successful call had a name that its fixture could have. -/
theorem name_of_generate {generator : Generator} {world after : World σ} {summary : Summary}
    (hbase : generator.base? world = some base)
    (h : generator.generate name world = .ok summary after) :
    Path.isPlainName name = true ∧ Path.IsStep name ∧ Path.isSpellable (name :: base) = true := by
  cases hopen : generator.openFixture name world with
  | error stop opened =>
    rw [generate, run_bind_of_error hopen] at h
    cases h
  | ok opening opened =>
    have hopens := openFixture_opens generator name world
    rw [hopen] at hopens
    cases hopens with
    | opened hplain hrooted hresolve hfounded =>
      cases hbase.symm.trans (base?_eq hrooted hresolve)
      exact ⟨hplain, hfounded.name_isStep, hfounded.target_spellable⟩

/-! ## Many calls

  The state between two calls is the disk alone; sources, settings and names may be new in every
  call. -/

end Generator

namespace Visit

variable [WordSource σ]

/-- What comes of the call. -/
def outcome (visit : Visit σ) : EStateM.Result Stop (World σ) Summary :=
  visit.generator.serve visit.toCall

/-- The disk that the call leaves behind, however it ends. -/
def left (visit : Visit σ) : Disk := (stateLeft visit.outcome).disk

end Visit

namespace Generator

variable [WordSource σ]

/-- Calls that are made one after the other, the first on the given disk and each other one on the
    disk that the call before left, to generators whose roots are there and lead to one place.
    Their settings, their sources and the names are any. -/
def Chained (base : Place) (disk : Disk) : List (Visit σ) → Prop
  | [] => True
  | visit :: later =>
    visit.world.disk = disk ∧ disk.resolve visit.generator.settings.root = .ok base ∧
      Chained base visit.left later

variable {name : String} {base : Place} {disk : Disk} {visit : Visit σ}

theorem unlinked_of_left (hunlinked : Unlinked base visit.world.disk)
    (hresolve : visit.world.disk.resolve visit.generator.settings.root = .ok base) :
    Unlinked base visit.left := by
  rcases generate_raises hunlinked hresolve with hsame | hraised
  · rw [Visit.left, Visit.outcome, serve, hsame]
    exact hunlinked
  · exact hraised.unlinked hunlinked

/-- **No call ends that a fixture stands**, and none changes anything that belongs to it. -/
theorem standing_of_left (hunlinked : Unlinked base visit.world.disk)
    (hresolve : visit.world.disk.resolve visit.generator.settings.root = .ok base)
    (hstanding : Standing name base visit.world.disk) :
    Standing name base visit.left ∧
      ∀ place, Belongs name base place → visit.left.get? place = visit.world.disk.get? place := by
  have hsame : ∀ place, Belongs name base place →
      visit.left.get? place = visit.world.disk.get? place := by
    intro place hplace
    rcases generate_raises hunlinked hresolve with hsame | hraised
    · rw [Visit.left, Visit.outcome, serve, hsame]
    · exact hraised.spares_standing hstanding hplace
  refine ⟨⟨?_, ?_⟩, hsame⟩
  · rw [hsame _ (Or.inl List.suffix_rfl), hstanding.top]
  · rw [hsame _ (Or.inr rfl)]
    exact hstanding.ledger

/-- Up to a call there is no link in the directory, and its generator's root leads there. -/
theorem Chained.reach {earlier later : List (Visit σ)} (hunlinked : Unlinked base disk)
    (h : Chained base disk (earlier ++ visit :: later)) :
    Unlinked base visit.world.disk ∧
      visit.world.disk.resolve visit.generator.settings.root = .ok base ∧
      Chained base visit.left later := by
  induction earlier generalizing disk with
  | nil =>
    obtain ⟨rfl, hresolve, hlater⟩ := h
    exact ⟨hunlinked, hresolve, hlater⟩
  | cons first earlier ih =>
    obtain ⟨rfl, hresolve, hrest⟩ := h
    exact ih (unlinked_of_left hunlinked hresolve) hrest

/-- While calls follow each other, a fixture that stands stays as it is. -/
theorem Chained.keeps {later : List (Visit σ)} (hunlinked : Unlinked base disk)
    (h : Chained base disk later) (hstanding : Standing name base disk) :
    ∀ next ∈ later, next.world.disk.resolve next.generator.settings.root = .ok base ∧
      Standing name base next.world.disk ∧
      ∀ place, Belongs name base place →
        next.world.disk.get? place = disk.get? place ∧ next.left.get? place = disk.get? place := by
  induction later generalizing disk with
  | nil => simp
  | cons first later ih =>
    obtain ⟨rfl, hresolve, hrest⟩ := h
    obtain ⟨hleft, hsame⟩ := standing_of_left hunlinked hresolve hstanding
    intro next hnext
    rcases List.mem_cons.1 hnext with rfl | hnext
    · exact ⟨hresolve, hstanding, fun place hplace => ⟨rfl, hsame place hplace⟩⟩
    · obtain ⟨hresolve', hstanding', hkept⟩ :=
        ih (unlinked_of_left hunlinked hresolve) hrest hleft next hnext
      refine ⟨hresolve', hstanding', fun place hplace => ?_⟩
      rw [← hsame place hplace]
      exact hkept place hplace

/-- **Finished fixtures stay as they are.**  Once a call has succeeded, every later call in the same
    directory finds and leaves the tree of the fixture and its ledger as they were then, whether it
    succeeds or fails; and a later call for the same name is refused, for the fixture is there. -/
theorem finished_fixture_stays {earlier later : List (Visit σ)} {next : Visit σ}
    {summary : Summary} {after : World σ} (hunlinked : Unlinked base disk)
    (h : Chained base disk (earlier ++ visit :: later))
    (hdone : visit.outcome = .ok summary after) (hnext : next ∈ later) :
    (∀ place, Belongs visit.name base place →
      next.world.disk.get? place = after.disk.get? place ∧
        next.left.get? place = after.disk.get? place) ∧
    (next.name = visit.name → next.outcome =
      .error (.failed (.alreadyExists (Path.ofPlace (visit.name :: base)))) next.world) := by
  obtain ⟨hvisit, hresolve, hlater⟩ := h.reach hunlinked
  have hleft : visit.left = after.disk := by rw [Visit.left, hdone, stateLeft]
  have hbase := base?_of_resolve hresolve
  have hledger : visit.generator.LedgerUnlinked visit.name visit.world := by
    intro base' hbase' target
    cases hbase.symm.trans hbase'
    exact hvisit _ target
  obtain ⟨base', sketch, hcompleted⟩ := generate_eq_ok hledger hdone
  cases hbase.symm.trans hcompleted.base_eq
  -- the fixture stands when its call is over
  have hstanding : Standing visit.name base visit.left := by
    rw [hleft]
    refine ⟨hcompleted.get?_top, ?_⟩
    rcases hcompleted.ledger with hfile | ⟨-, hdevice, -⟩
    · rw [hfile]
      exact Option.some_ne_none _
    · rw [hdevice]
      exact Option.some_ne_none _
  obtain ⟨hresolve', hstanding', hkept⟩ :=
    hlater.keeps (unlinked_of_left hvisit hresolve) hstanding next hnext
  rw [← hleft]
  refine ⟨hkept, fun hname => ?_⟩
  have htop : next.world.disk.get? (visit.name :: base) ≠ none := by
    rw [hstanding'.top]
    exact Option.some_ne_none _
  obtain ⟨hplain, hstep, hspell⟩ := name_of_generate hbase hdone
  rw [Visit.outcome, serve, hname]
  exact refused_of_taken hresolve' hplain hstep hspell (Disk.get?_tail htop) htop

/-- The root of the little generator is the top of every disk. -/
theorem little_resolve (disk : Disk) : disk.resolve little.settings.root = .ok [] := by
  have hsplit : Path.split little.settings.root = ["", ""] := by decide +kernel
  have hfits : Path.fits little.settings.root = true := by decide +kernel
  have habsolute : Path.isAbsolute little.settings.root = true := by decide +kernel
  have hnul : little.settings.root.toList.contains '\x00' = false := by decide +kernel
  have hempty : little.settings.root ≠ "" := by decide +kernel
  have harrive : disk.arrive Disk.resolving little.settings.root = .ok (.directory []) := by
    rw [Disk.arrive, hnul, hfits, habsolute, hsplit]
    simp [hempty, Disk.walk, Disk.linkLimit, Disk.walkPieces, Disk.get?_nil]
  rw [Disk.resolve, Disk.findAt, harrive]
  rfl

theorem little_unlinked : Unlinked [] World.little.disk := by
  intro name target
  have hempty : Disk.empty.get? [name] = none := by
    rw [Disk.get?, Disk.empty, Disk.getElem?_insert_place, if_neg (List.cons_ne_nil name []).symm]
    simp
  show Disk.empty.get? [name] ≠ _
  rw [hempty]
  exact (Option.some_ne_none _).symm

/-- The little generator makes a fixture `f`.  A call for `f.tag`, which is where the ledger is,
    leaves the fixture as it is, and another call for `f` is refused. -/
theorem little_fixture_stays :
    ∃ (first second third : Visit Steady) (summary : Summary) (after : World Steady),
      (first.name, second.name, third.name) = ("f", "f.tag", "f") ∧
      Unlinked [] World.little.disk ∧
      Chained [] World.little.disk [first, second, third] ∧
      first.outcome = .ok summary after ∧
      (∀ place, Belongs "f" [] place → second.left.get? place = after.disk.get? place) ∧
      third.outcome = .error (.failed (.alreadyExists "/f")) third.world := by
  let first : Visit Steady := ⟨⟨"f", World.little⟩, little⟩
  let second : Visit Steady := ⟨⟨"f.tag", { World.little with disk := first.left }⟩, little⟩
  let third : Visit Steady := ⟨⟨"f", { World.little with disk := second.left }⟩, little⟩
  have hchained : Chained [] World.little.disk ([] ++ first :: [second, third]) :=
    ⟨rfl, little_resolve _, rfl, little_resolve _, rfl, little_resolve _, trivial⟩
  obtain ⟨after, hdone⟩ := little_generates
  have hstays := fun next (hnext : next ∈ [second, third]) =>
    finished_fixture_stays little_unlinked hchained hdone hnext
  exact ⟨first, second, third, _, after, rfl, little_unlinked, hchained, hdone,
    fun place hplace => ((hstays second (by simp)).1 place hplace).2,
    (hstays third (by simp)).2 rfl⟩

end Generator

end Thicket
