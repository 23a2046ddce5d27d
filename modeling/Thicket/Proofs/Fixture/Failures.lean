/-
  What can go wrong where there is room.

  Suppose that the root is there and that nothing is at the fixture's place and at its ledger's
  (`Clear`).  Then a call that returns succeeds, or a path was too long; the disk can refuse nothing
  else.  For the two places are free at the start, the account of identifiers keeps all later
  places free, and the ledger is a plain file beside the tree, which takes every line.

  1. **Made generators** — a generator that could be made has settings without a fault and a codec
     of all letters and digits (`made_of_create`).
  2. **Room** — the opening succeeds, unless one of the two paths is too long (`Clear.openFixture`).
  3. **Paths in the tree** — identifiers of a fixture have twelve symbols at most, so the longest
     path is known beforehand (`tooLong_of_reachable`), and where it is within the limit nothing
     goes wrong.
  4. **The call** — it ends for a stalled source or for a path that is too long, or it succeeds
     (`Clear.generate_ends`).

  A source stalls that rejects words for ever, and a counter that has come to its end counts as
  one.  The theorem is about calls that come back.
-/
import Thicket.Proofs.Fixture.Completion
import Thicket.Proofs.Fixture.Creation
import Thicket.Proofs.Sketch.Contract

namespace Thicket

variable {σ : Type} [WordSource σ]

namespace Generator

/-! ## Made generators

  What is known of the result of `create` is all that is used of it here. -/

/-- What holds of every generator that could be made. -/
structure Made (generator : Generator) : Prop where
  valid : generator.settings.fault? = none
  size : generator.codec.size = 62
  minLength : generator.codec.minLength = Codec.fixtureLength

/-- A generator that was made has no fault in its settings and sixty-two symbols. -/
theorem made_of_create {settings : Settings} {seed : UInt64} {patience : Nat}
    {before after : World σ} {generator : Generator}
    (h : create settings seed patience before = .ok generator after) : generator.Made := by
  cases hfault : settings.fault? with
  | some fault =>
    rw [create_of_fault hfault] at h
    cases h
  | none =>
    rcases create_ends hfault patience before with ⟨source, ⟨codec, hcodec, hcreate⟩ | hcreate⟩
    · cases hcreate.symm.trans h
      exact ⟨hfault, hcodec.size_eq, hcodec.minLength_eq⟩
    · cases hcreate.symm.trans h

/-- A generator is not made for a parameter, or because the source stalls. -/
theorem create_eq_error {settings : Settings} {seed : UInt64} {patience : Nat}
    {before after : World σ} {stop : Stop}
    (h : create settings seed patience before = .error stop after) :
    (∃ fault, stop = .failed (.invalid fault)) ∨ stop = .mishap .stalled := by
  cases hfault : settings.fault? with
  | some fault =>
    rw [create_of_fault hfault] at h
    cases h
    exact Or.inl ⟨fault, rfl⟩
  | none =>
    rcases create_ends hfault patience before with ⟨source, ⟨codec, -, hcreate⟩ | hcreate⟩
    · cases hcreate.symm.trans h
    · cases hcreate.symm.trans h
      exact Or.inr rfl

/-- Making a generator leaves the disk as it was, whether it succeeds or fails. -/
theorem disk_of_create (settings : Settings) (seed : UInt64) (patience : Nat) (before : World σ) :
    (stateLeft (create settings seed patience before)).disk = before.disk := by
  cases hfault : settings.fault? with
  | some fault => rw [create_of_fault hfault, stateLeft]
  | none =>
    rcases create_ends hfault patience before with ⟨source, ⟨codec, -, hcreate⟩ | hcreate⟩
    · rw [hcreate]
      rfl
    · rw [hcreate]
      rfl

/-! ## Room

  The name of the ledger must be within the limit on names; then that of the fixture is, too. -/

/-- The root is there, and nothing is at the fixture's place and at its ledger's. -/
structure Clear (generator : Generator) (name : String) (world : World σ) (base : Place) :
    Prop where
  resolves : world.disk.resolve generator.settings.root = .ok base
  base_directory : world.disk.get? base = some .directory
  plain : Path.isPlainName name = true
  no_nul : '\x00' ∉ name.toList
  short : (name ++ ledgerSuffix).utf8ByteSize ≤ Path.nameLimit
  target_free : world.disk.get? (name :: base) = none
  ledger_free : world.disk.get? (ledgerPlace name base) = none

/-- A path was too long, and it was not longer than the bound. -/
def TooLong (bound : Nat) (stop : Stop) : Prop :=
  ∃ task path, stop = .failed (.storage task path .nameTooLong) ∧
    Path.sizeLimit ≤ path.utf8ByteSize ∧ path.utf8ByteSize ≤ bound

/-- The length that no path of a fixture exceeds. -/
def reach (generator : Generator) (name : String) (base : Place) : Nat :=
  (Path.ofPlace base).utf8ByteSize + name.utf8ByteSize +
    13 * generator.settings.depth.toNat + 18

/-- A name more makes a path longer by the name and a slash, or by less at the top. -/
theorem utf8ByteSize_ofPlace_cons_le (name : String) (base : Place) :
    (Path.ofPlace (name :: base)).utf8ByteSize ≤
      (Path.ofPlace base).utf8ByteSize + 1 + name.utf8ByteSize := by
  have htrunk := Path.utf8ByteSize_trunk_le base
  rw [Path.utf8ByteSize_ofPlace_cons]
  omega

variable {generator : Generator} {name : String} {world : World σ} {base : Place}

omit [WordSource σ] in
/-- Where there is room the opening succeeds, or one of the two paths is too long. -/
theorem Clear.openFixture (h : Clear generator name world base) :
    (∃ ledger opened, generator.openFixture name world =
        .ok (Path.ofPlace (name :: base), ledger) opened ∧
      Founded name base world (Path.ofPlace (name :: base)) ledger opened ∧
      ledger.sink = .file (ledgerPlace name base) 0) ∨
    ∃ stop after, generator.openFixture name world = .error stop after ∧
      TooLong (generator.reach name base) stop ∧
      ¬ (Path.isSpellable (name :: base) = true ∧
        Path.isSpellable (ledgerPlace name base) = true) := by
  have hname : Path.IsStep name := Path.isStep_of_isPlainName h.plain h.no_nul
  have hledgerName : Path.IsStep (name ++ ledgerSuffix) :=
    hname.append (by decide) (by decide) (by decide)
  have hsuffix : (name ++ ledgerSuffix).utf8ByteSize = name.utf8ByteSize + 4 := by
    rw [String.utf8ByteSize_append]
    rfl
  have hrooted : makeRoot generator.settings.root world = .ok () world := by
    rw [makeRoot, if_pos (Disk.pathExists_of_resolve h.resolves)]
  rw [openFixture_eq h.plain hrooted h.resolves]
  have htarget := makeTarget_ofPlace hname h.base_directory
  by_cases hspell : Path.isSpellable (name :: base) = true
  · -- the directory is made, and beside it nothing has changed
    rw [if_pos hspell, if_pos h.target_free] at htarget
    obtain ⟨hbase, hplace⟩ := get?_beside_made hname h.base_directory hspell h.target_free
    have hfree : (world.disk.add base name .directory).get? ((name ++ ledgerSuffix) :: base) =
        none := hplace.trans h.ledger_free
    have hopened : openLedger (Path.ofPlace ((name ++ ledgerSuffix) :: base))
        { world with disk := world.disk.add base name .directory } = _ :=
      openLedger_ofPlace hledgerName hbase (by simp [hfree])
    rw [hfree] at hopened
    by_cases hledgerSpell : Path.isSpellable ((name ++ ledgerSuffix) :: base) = true
    · simp only [if_pos hledgerSpell] at hopened
      refine Or.inl ⟨_, _, (run_bind_of_ok htarget).trans (run_bind_of_ok hopened),
        ⟨hname, h.base_directory, hspell, h.target_free, rfl, hopened⟩, rfl⟩
    · simp only [if_neg hledgerSpell] at hopened
      refine Or.inr ⟨_, _, (run_bind_of_ok htarget).trans (run_bind_of_error hopened),
        ⟨.createLedger, _, rfl, ?_, ?_⟩, fun hboth => hledgerSpell hboth.2⟩
      · exact Path.sizeLimit_le_of_not_isSpellable h.short hledgerSpell
      · have hsize := utf8ByteSize_ofPlace_cons_le (name ++ ledgerSuffix) base
        rw [reach]
        omega
  · rw [if_neg hspell] at htarget
    refine Or.inr ⟨_, _, run_bind_of_error htarget, ⟨.createFixtureDirectory, _, rfl, ?_, ?_⟩,
      fun hboth => hspell hboth.1⟩
    · refine Path.sizeLimit_le_of_not_isSpellable ?_ hspell
      have hshort := h.short
      omega
    · have hsize := utf8ByteSize_ofPlace_cons_le name base
      rw [reach]
      omega

/-! ## Paths in the tree

  A level is a slash and an identifier, thirteen bytes at most; a file has four more for its
  suffix. -/

omit [WordSource σ] in
/-- Identifiers are short, so the names of files fit. -/
theorem utf8ByteSize_fileName_le (hmade : generator.Made) (counter : UInt64) :
    (generator.codec.encode counter ++ fileSuffix).utf8ByteSize ≤ 16 := by
  have hencode := Codec.utf8ByteSize_encode_le hmade.size hmade.minLength counter
  have hsuffix : fileSuffix.utf8ByteSize = 4 := rfl
  rw [String.utf8ByteSize_append]
  omega

/-- A place that growing comes to is blocked only if its path is too long. -/
theorem tooLong_of_reachable (hmade : generator.Made) {place : Place}
    (hreachable : generator.codec.Reachable generator.settings.depth.toNat place)
    (hblocked : ¬ Path.isSpellable (place ++ name :: base) = true) (task : Task) :
    TooLong (generator.reach name base)
      (.failed (.storage task (Path.ofPlace (place ++ name :: base)) .nameTooLong)) := by
  have hencode := Codec.utf8ByteSize_encode_le hmade.size hmade.minLength
  have hbase := utf8ByteSize_ofPlace_cons_le name base
  have hlimit : (255 : Nat) = Path.nameLimit := rfl
  -- every level adds a slash and an identifier
  have htrail : ∀ parent, generator.codec.Trail parent →
      (Path.ofPlace (parent ++ name :: base)).utf8ByteSize ≤
        (Path.ofPlace (name :: base)).utf8ByteSize + 13 * parent.length := by
    intro parent hparent
    refine Path.utf8ByteSize_ofPlace_append_le ?_ name base
    intro step hstep
    obtain ⟨counter, rfl⟩ := hparent step hstep
    exact hencode counter
  -- a file can be one level deeper than a directory, or four bytes longer
  obtain ⟨last, parent, rfl, hparent, hlast, hdeep⟩ : ∃ last parent, place = last :: parent ∧
      generator.codec.Trail parent ∧ last.utf8ByteSize ≤ 16 ∧
      13 * parent.length + last.utf8ByteSize ≤ 13 * generator.settings.depth.toNat + 16 := by
    cases hreachable with
    | @directory parent counter hparent hlength =>
      have hname := hencode counter
      exact ⟨_, parent, rfl, hparent, by omega, by omega⟩
    | @file parent counter hparent hlength =>
      have hname := utf8ByteSize_fileName_le hmade counter
      exact ⟨_, parent, rfl, hparent, hname, by omega⟩
  have hpath := htrail parent hparent
  refine ⟨task, _, rfl, Path.sizeLimit_le_of_not_isSpellable (by omega) hblocked, ?_⟩
  rw [List.cons_append, Path.utf8ByteSize_ofPlace_cons, Path.trunk_append_cons, reach]
  omega

/-! ## The call

  What the sketch says is carried over to the call: where it is refused an entry, the call fails
  for it. -/

/-- Growing where there is room succeeds, stalls, or meets a path that is too long. -/
theorem Founded.fill_of_made (hmade : generator.Made) {ledger : Ledger} {opened : World σ}
    {target : String} (hfounded : Founded name base world target ledger opened)
    (hledger : LedgerOpened name base world ledger opened)
    (hsink : ledger.sink = .file (ledgerPlace name base) 0) :
    match generator.fill generator.settings.depth.toNat target
      (startPlot (announced target opened) ledger) with
    | .ok _ plot => ∃ sketch, Realises (hledger.ground (announced target opened)) plot sketch
    | .error stop _ => stop = .mishap .stalled ∨ TooLong (generator.reach name base) stop := by
  have hmatches := hfounded.fill_matches hledger generator
  -- the two halts of a sketch, as they show on the disk
  have hadmits : generator.Admits (fun place => !Path.isSpellable (place ++ name :: base))
      fun halt _ => halt.stop (name :: base) = .mishap .stalled ∨
        TooLong (generator.reach name base) (halt.stop (name :: base)) := {
    stalled := fun _ => Or.inl rfl
    refused := by
      intro task place _ hblocked hreachable _
      exact Or.inr (tooLong_of_reachable hmade hreachable (by simpa using hblocked) task) }
  have hensures := sketchFill_ensures_accounts hadmits hmade.valid (Sketch.start opened.source) rfl
  cases hfill : generator.fill generator.settings.depth.toNat target
      (startPlot (announced target opened) ledger) with
  | ok _ plot =>
    rw [hfill] at hmatches
    obtain ⟨sketch, -, hreal, -⟩ := hmatches
    exact ⟨sketch, hreal⟩
  | error stop plot =>
    rw [hfill] at hmatches
    obtain ⟨halt, sketch, hsketched, rfl, -⟩ := hmatches.eq_error (Ledger.place?_of_file hsink)
    rw [hsketched] at hensures
    exact hensures

omit [WordSource σ] in
/-- The root is there already, so the fixture goes where it resolves to. -/
theorem Clear.base?_eq (h : Clear generator name world base) :
    generator.base? world = some base :=
  base?_of_resolve h.resolves

omit [WordSource σ] in
/-- Nothing changes at the ledger's place while the root is there. -/
theorem Clear.ledgerOpened (h : Clear generator name world base) {target : String}
    {ledger : Ledger} {opened : World σ}
    (hfounded : Founded name base world target ledger opened) :
    LedgerOpened name base world ledger opened := by
  refine hfounded.ledgerOpened fun target hentry => ?_
  rw [h.ledger_free] at hentry
  cases hentry

omit [WordSource σ] in
/-- A ledger in a file can be closed. -/
theorem close_succeeds (target : String) {plot : Plot σ} {place : Place}
    (hend : plot.ledger.AtEnd plot.disk) (hplace : plot.ledger.place? = some place) :
    ∃ summary after, generator.close target (.ok () plot) = .ok summary after := by
  obtain ⟨disk, hfinish, -, -⟩ := Ledger.finish_of_place hend hplace
  rw [close, hfinish]
  exact ⟨_, _, rfl⟩

/-- Where there is room a call succeeds, or it ends for one of two reasons. -/
theorem Clear.generate_ends (hmade : generator.Made) (h : Clear generator name world base) :
    (∃ summary after, generator.generate name world = .ok summary after) ∨
    ∃ stop after, generator.generate name world = .error stop after ∧
      (stop = .mishap .stalled ∨ TooLong (generator.reach name base) stop) := by
  rcases h.openFixture with ⟨ledger, opened, hopen, hfounded, hsink⟩ |
    ⟨stop, after, hopen, hlong, -⟩
  · have hledger := h.ledgerOpened hfounded
    have hfill := hfounded.fill_of_made hmade hledger hsink
    rw [generate_of_opened hopen]
    cases hgrown : generator.fill generator.settings.depth.toNat (Path.ofPlace (name :: base))
        (startPlot (announced (Path.ofPlace (name :: base)) opened) ledger) with
    | ok _ plot =>
      rw [hgrown] at hfill
      obtain ⟨sketch, hreal⟩ := hfill
      have hplace : plot.ledger.place? = some (ledgerPlace name base) :=
        hreal.ledgerPlace.trans (Ledger.place?_of_file hsink)
      exact Or.inl (close_succeeds _ hreal.atEnd hplace)
    | error stop plot =>
      rw [hgrown] at hfill
      exact Or.inr ⟨stop, _, rfl, hfill⟩
  · exact Or.inr ⟨stop, after, run_bind_of_error hopen, Or.inr hlong⟩

/-- The call comes back: no draw is repeated for ever, and the counter does not run out. -/
def Returns {α : Type} (result : EStateM.Result Stop (World σ) α) : Prop :=
  ∀ after, result ≠ .error (.mishap .stalled) after

/-- **Where there is room only the length of a path can be refused.**  A call of a made generator
    that returns, with a root that is there and nothing in its way, succeeds or fails for a path
    of 4096 bytes or more; so nothing is ever made where something is.  And the call succeeds if
    all paths of the fixture are shorter. -/
theorem generate_succeeds_or_path_too_long {settings : Settings} {seed : UInt64} {patience : Nat}
    {before made : World σ} (hcreate : create settings seed patience before = .ok generator made)
    (hclear : Clear generator name world base)
    (hreturns : Returns (generator.generate name world)) :
    ((∃ summary after, generator.generate name world = .ok summary after) ∨
      ∃ task path after, generator.generate name world =
          .error (.failed (.storage task path .nameTooLong)) after ∧
        4096 ≤ path.utf8ByteSize) ∧
    (∀ task path after, generator.generate name world ≠
      .error (.failed (.storage task path .alreadyThere)) after) ∧
    ((Path.ofPlace base).utf8ByteSize + name.utf8ByteSize + 13 * generator.settings.depth.toNat + 18
        < 4096 → ∃ summary after, generator.generate name world = .ok summary after) := by
  rcases hclear.generate_ends (made_of_create hcreate) with hok | ⟨stop, after, herror, hstop⟩
  · refine ⟨Or.inl hok, fun task path after herror => ?_, fun _ => hok⟩
    obtain ⟨summary, done, hdone⟩ := hok
    rw [hdone] at herror
    cases herror
  · rcases hstop with rfl | ⟨task, path, rfl, hlong, hreach⟩
    · exact absurd herror (hreturns after)
    · refine ⟨Or.inr ⟨task, path, after, herror, hlong⟩, fun task path after hmet => ?_,
        fun hshort => ?_⟩
      · rw [herror] at hmet
        cases hmet
      · have hlimit : Path.sizeLimit = 4096 := rfl
        rw [reach] at hreach
        omega

/-- A generator that is made for the little world makes a fixture there with two subdirectories
    and a file in every directory. -/
theorem made_generator_succeeds :
    ∃ generator made, create little.settings 0 1 World.little = .ok generator made ∧
      Clear generator "f" World.little [] ∧
      Returns (generator.generate "f" World.little) ∧
      (Path.ofPlace []).utf8ByteSize + "f".utf8ByteSize +
        13 * generator.settings.depth.toNat + 18 < 4096 ∧
      ∃ summary after, generator.generate "f" World.little = .ok summary after := by
  have hanswer : ((answer? (create little.settings 0 1 World.little)).map
      fun generator => (generator.settings.root, generator.settings.depth,
        answer? (generator.generate "f" World.little))) = some ("/", 1, some {
      seed := 0
      target := "/f"
      ledger := "/f.tag"
      directories := 3
      files := 3
      payloadBytes := 3
      ledgerEntries := 3
      distinctTags := 3 }) := by decide +kernel
  obtain ⟨generator, hmade, hparts⟩ := Option.map_eq_some_iff.1 hanswer
  obtain ⟨made, hcreate⟩ := exists_of_answer? hmade
  simp only [Prod.mk.injEq] at hparts
  obtain ⟨hroot, hdepth, hgenerate⟩ := hparts
  have hclear : Clear generator "f" World.little [] := {
    resolves := by
      rw [hroot]
      rfl
    base_directory := rfl
    plain := by decide +kernel
    no_nul := by decide
    short := by decide +kernel
    target_free := by decide +kernel
    ledger_free := by decide +kernel }
  have hreturns : Returns (generator.generate "f" World.little) := by
    intro after hstalled
    rw [hstalled] at hgenerate
    cases hgenerate
  have hshort : (Path.ofPlace []).utf8ByteSize + "f".utf8ByteSize +
      13 * generator.settings.depth.toNat + 18 < 4096 := by
    rw [hdepth]
    decide +kernel
  exact ⟨generator, made, hcreate, hclear, hreturns, hshort,
    (generate_succeeds_or_path_too_long hcreate hclear hreturns).2.2 hshort⟩

end Generator

end Thicket
