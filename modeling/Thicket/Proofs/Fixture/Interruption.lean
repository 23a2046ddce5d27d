/-
  What a call leaves behind that fails while its tree is growing.

  The tree's own failure is what the caller is told of, for a ledger in a file can always be closed.
  Closing it puts all lines on the disk that were recorded up to then, and changes nothing else
  (`close_leaves`).  The rest is known of the sketch that was refused (`refused_of_sketchFill`): its
  account of identifiers holds, so the ledger can be read and no two files have one name; and all
  its files are whole, so the lines tell of them as those of a completed fixture would.

  1. **The refused sketch** — an entry is refused before its file exists or its directory is
     counted, so what is recorded at that point is whole: the file before it has all its tags, and
     its lines are all there.
  2. **The failed call** — the plot that failed realises the refused sketch, on the disk and in
     the ledger; closing moves what is left of the lines from the buffer to the file.
  3. **A deep place** — a fixture that fails this way: so deep in a disk that the fourth file has
     no room for its path.

  All of this together is `generate_fails_cleanly`.
-/
import Thicket.Proofs.Fixture.Failures
import Thicket.Proofs.Fixture.Tagged
import Thicket.Proofs.Sketch.Whole

namespace Thicket

variable {σ : Type} [WordSource σ]

namespace Generator

variable {generator : Generator} {name target : String} {base : Place} {ledger : Ledger}
  {world opened after : World σ} {failure : Failure}

/-! ## The refused sketch

  A mishap may come in the middle of a file, a refusal only between two. -/

/-- What is known of a sketch that was refused an entry: the account holds, and its files are
    whole. -/
structure Refused (generator : Generator) (start : σ) (halt : Halt) (sketch : Sketch σ) :
    Prop where
  halt_eq : ∃ task place, halt = .refused task place .nameTooLong
  accounted : ∃ pending unfilled, generator.Accounts pending unfilled sketch.toProgress
  whole : generator.AllWhole start sketch

/-- **A growing sketch ends early for a mishap, or it is refused an entry.** -/
theorem refused_of_sketchFill (hvalid : generator.settings.fault? = none)
    {blocked : Place → Bool} {start : σ} {halt : Halt} {sketch : Sketch σ}
    (h : generator.sketchFill blocked generator.settings.depth.toNat [] (Sketch.start start) =
      .error halt sketch) :
    (∃ reason, halt = .mishap reason) ∨ generator.Refused start halt sketch := by
  have hadmits : generator.Admits blocked fun halt progress => (∃ reason, halt = .mishap reason) ∨
      (∃ task place, halt = .refused task place .nameTooLong) ∧
        ∃ pending unfilled, generator.Accounts pending unfilled progress := {
    stalled := fun _ => Or.inl ⟨_, rfl⟩
    refused := fun task place _ _ _ haccounted => Or.inr ⟨⟨task, place, rfl⟩, haccounted⟩ }
  have hfill := sketchFill_ensures_accounts hadmits hvalid (Sketch.start start) rfl
  have hwhole := keepsWhole_sketchFill hvalid blocked generator.settings.depth.toNat [] start
    (Sketch.start start) ⟨[], whole_start generator start⟩
  rw [h] at hfill hwhole
  rcases hfill with hmishap | ⟨⟨task, place, rfl⟩, haccounted⟩
  · exact Or.inl hmishap
  · exact Or.inr ⟨⟨task, place, rfl⟩, haccounted, hwhole⟩

namespace Refused

variable {start : σ} {halt : Halt} {sketch : Sketch σ} {disk : Disk} {top : Place}
  (h : generator.Refused start halt sketch)
  (htree : ∀ place, disk.get? (place ++ top) = sketch.history.entryAt place)

include h htree

/-- The lines of the refused sketch tell of the files that are there. -/
theorem tagged : Tagged generator.settings disk top sketch.history.lines := by
  obtain ⟨pending, unfilled, haccounted⟩ := h.accounted
  obtain ⟨leaves, hwhole⟩ := h.whole
  have hnames := perm_fileNames_of_tree htree haccounted.wellMade haccounted.filePlaces_nodup
  have hnodup := haccounted.fileNames_nodup
  rw [hwhole.map_lastName_filePlaces] at hnames hnodup
  rw [hwhole.lines_eq_flatMap]
  refine tagged_of_leaves hnames hnodup ?_
  intro leaf hleaf
  obtain ⟨planted, hplanted, rfl⟩ := List.mem_map.1 hleaf
  exact hwhole.keeps planted hplanted

/-- Every file that is there was drawn since the start. -/
theorem drawn : ∀ file ∈ disk.filesBelow top, ∃ content,
    disk.get? file = some (.file content) ∧ generator.Drawn start sketch.source content := by
  intro file hfile
  obtain ⟨leaves, hwhole⟩ := h.whole
  obtain ⟨⟨content, hentry⟩, front, -, rfl⟩ := Disk.mem_filesBelow.1 hfile
  have hshown : sketch.history.entryAt front = some (.file content) :=
    (htree front).symm.trans hentry
  exact ⟨content, hentry, hwhole.drawn_of_entryAt hshown⟩

end Refused

/-! ## The failed call

  The ledger is a plain file, so writing to it cannot fail and the failure is not the ledger's. -/

omit [WordSource σ] in
/-- Where there is a plain file, or nothing, the ledger of an opened fixture is in a file. -/
theorem LedgerPlain.place?_eq {rooted : World σ} (h : generator.LedgerPlain name world)
    (hbase : generator.base? world = some base)
    (hrooted : makeRoot generator.settings.root world = .ok () rooted)
    (hledger : LedgerOpened name base rooted ledger opened) :
    ledger.place? = some (ledgerPlace name base) := by
  rcases hledger.sink with ⟨hsink, -, -⟩ | ⟨-, hdevice, -⟩
  · exact Ledger.place?_of_file hsink
  · -- making the root makes no device
    have hbefore := (makeRoot_adds hrooted).of_get?_eq hdevice (by simp)
    rcases h base hbase with hnone | ⟨content, hfile⟩
    · rw [hnone] at hbefore
      cases hbefore
    · rw [hfile] at hbefore
      cases hbefore

omit [WordSource σ] in
/-- Closing after a failure tells of that failure. -/
theorem close_error (generator : Generator) (target : String) (stop : Stop) (plot : Plot σ) :
    generator.close target (.error stop plot) =
      .error stop { plot.toWorld with disk := (plot.ledger.finish plot.disk).2 } := rfl

omit [WordSource σ] in
/-- Closing a ledger in a file puts all lines there, and changes nothing else. -/
theorem close_leaves {ground : Ground} {plot : Plot σ} {sketch : Sketch σ}
    (hreal : Realises ground plot sketch) {place : Place}
    (hplace : ground.ledgerPlace = some place) :
    ∃ disk, (plot.ledger.finish plot.disk).2 = disk ∧
      disk.get? place = some (.file (Ledger.text sketch.history.lines).toUTF8) ∧
      (∀ other, other ≠ place → disk.get? other = plot.disk.get? other) ∧
      ∀ other, disk.get? (other ++ ground.top) = sketch.history.entryAt other := by
  obtain ⟨disk, hfinish, hfile, helsewhere⟩ :=
    Ledger.finish_of_place hreal.atEnd (hreal.ledgerPlace.trans hplace)
  rw [hreal.account] at hfile
  refine ⟨disk, congrArg Prod.snd hfinish, hfile, helsewhere, ?_⟩
  intro other
  rw [helsewhere, hreal.tree]
  rintro rfl
  exact ground.ledger_outside _ hplace ⟨other, rfl⟩

/-- What a call leaves behind that failed while its tree was growing. -/
structure Interrupted (generator : Generator) (name : String) (world : World σ)
    (failure : Failure) (after : World σ) (base : Place) (plot : Plot σ) (sketch : Sketch σ) :
    Prop where
  base_eq : generator.base? world = some base
  /-- The growing of the tree was given up for a path that is too long. -/
  refused : ∃ task place,
    failure = .storage task (Path.ofPlace (place ++ name :: base)) .nameTooLong ∧
    generator.sketchFill (fun place => !Path.isSpellable (place ++ name :: base))
      generator.settings.depth.toNat [] (Sketch.start world.source) =
        .error (.refused task place .nameTooLong) sketch
  /-- After that only the ledger was written. -/
  elsewhere : ∀ place, place ≠ ledgerPlace name base → after.disk.get? place = plot.disk.get? place
  tree : ∀ place, after.disk.get? (place ++ name :: base) = sketch.history.entryAt place
  /-- The ledger holds the lines that were recorded, all of them and nothing else. -/
  ledger : after.disk.get? (ledgerPlace name base) =
    some (.file (Ledger.text sketch.history.lines).toUTF8)
  readable : Ledger.readLines (Ledger.text sketch.history.lines) = sketch.history.lines
  /-- So much had been put by then, on the disk and in the buffer together. -/
  account : plot.ledger.account plot.disk = (Ledger.text sketch.history.lines).toUTF8
  entries : plot.ledger.entries = sketch.history.lines.length
  tagged : Tagged generator.settings after.disk (name :: base) sketch.history.lines
  /-- What a file holds was drawn during the call, as many bytes of it as were asked for. -/
  drawn : ∀ file ∈ after.disk.filesBelow (name :: base), ∃ content,
    after.disk.get? file = some (.file content) ∧
      generator.Drawn world.source after.source content

/-- **A call that fails in its tree leaves whole files and their lines.**  If a call fails after its
    ledger was opened, the failure is the one that the tree met.  The ledger, a plain file, then
    holds exactly the lines that were recorded up to there and can be read again; every line is
    about a file that is there; and every file has the content that was drawn for it, and
    different tags, as many as the settings allow. -/
theorem generate_fails_cleanly (hvalid : generator.settings.fault? = none)
    (hplain : generator.LedgerPlain name world)
    (hopen : generator.openFixture name world = .ok (target, ledger) opened)
    (hfailed : generator.generate name world = .error (.failed failure) after) :
    ∃ base plot sketch,
      generator.fill generator.settings.depth.toNat target
        (startPlot (announced target opened) ledger) = .error (.failed failure) plot ∧
      Interrupted generator name world failure after base plot sketch := by
  obtain ⟨base, rooted, hbase, hrooted, -, hfounded, hledger⟩ :=
    exists_ledgerOpened hplain.unlinked hopen
  have hplace : ledger.place? = some (ledgerPlace name base) :=
    hplain.place?_eq hbase hrooted hledger
  rw [generate_of_opened hopen] at hfailed
  have hmatches := hfounded.fill_matches hledger generator
  cases hfill : generator.fill generator.settings.depth.toNat target
      (startPlot (announced target opened) ledger) with
  | ok _ plot =>
    -- a tree that is fully grown is closed without a failure
    rw [hfill] at hmatches hfailed
    obtain ⟨sketch, -, hreal, -⟩ := hmatches
    have hsucceeds : ∃ summary done, generator.close target (.ok () plot) = .ok summary done :=
      close_succeeds target hreal.atEnd (hreal.ledgerPlace.trans hplace)
    obtain ⟨summary, done, hdone⟩ := hsucceeds
    rw [hdone] at hfailed
    cases hfailed
  | error stop plot =>
    rw [hfill, close_error] at hfailed
    rw [hfill] at hmatches
    cases hfailed
    obtain ⟨halt, sketch, hsketched, hstop, hreal⟩ := hmatches.eq_error hplace
    rw [source_of_openFixture hopen] at hsketched
    refine ⟨base, plot, sketch, rfl, ?_⟩
    rcases refused_of_sketchFill hvalid hsketched with ⟨reason, rfl⟩ | hrefused
    · cases hstop
    · obtain ⟨disk, hdisk, hfile, helsewhere, htree⟩ := close_leaves hreal hplace
      rw [hdisk]
      obtain ⟨task, place, rfl⟩ := hrefused.halt_eq
      obtain ⟨pending, unfilled, haccounted⟩ := hrefused.accounted
      exact {
        base_eq := hbase
        refused := ⟨task, place, Stop.failed.inj hstop, hsketched⟩
        elsewhere := helsewhere
        tree := htree
        ledger := hfile
        readable := readLines_text_of_accounted haccounted
        account := hreal.account
        entries := hreal.entries
        tagged := hrefused.tagged htree
        drawn := by
          rw [show (⟨plot.source, disk, plot.notices⟩ : World σ).source = sketch.source from
            hreal.source]
          exact hrefused.drawn htree }

/-! ## A deep place

  The root is where relative paths start from, so that its own path is short and those below it
  are not. -/

/-- Where a fixture can be opened, the refusal of its sketch is the failure of the call. -/
theorem Clear.fails (h : Clear generator name world base)
    (hspell : Path.isSpellable (name :: base) = true)
    (hledgerSpell : Path.isSpellable (ledgerPlace name base) = true) {task : Task} {place : Place}
    {cause : Cause} {sketch : Sketch σ}
    (hsketched : generator.sketchFill (fun place => !Path.isSpellable (place ++ name :: base))
      generator.settings.depth.toNat [] (Sketch.start world.source) =
        .error (.refused task place cause) sketch) :
    ∃ target ledger opened after,
      generator.openFixture name world = .ok (target, ledger) opened ∧
      generator.generate name world =
        .error (.failed (.storage task (Path.ofPlace (place ++ name :: base)) cause)) after := by
  rcases h.openFixture with ⟨ledger, opened, hopen, hfounded, hsink⟩ | ⟨_, _, _, _, hlong⟩
  · have hledger := h.ledgerOpened hfounded
    have hmatches := hfounded.fill_matches hledger generator
    have hgenerate := generate_of_opened hopen
    rw [source_of_openFixture hopen, hsketched] at hmatches
    cases hfill : generator.fill generator.settings.depth.toNat (Path.ofPlace (name :: base))
        (startPlot (announced (Path.ofPlace (name :: base)) opened) ledger) with
    | ok _ plot =>
      rw [hfill] at hmatches
      -- a tree that is grown has a sketch that came to its end
      obtain ⟨sketch', hother, -⟩ := hmatches
      cases hother
    | error stop plot =>
      rw [hfill] at hmatches hgenerate
      obtain ⟨halt, sketch', hhalt, rfl, -⟩ := hmatches.eq_error (Ledger.place?_of_file hsink)
      cases hhalt
      exact ⟨_, ledger, opened, _, hopen, hgenerate⟩
  · exact absurd ⟨hspell, hledgerSpell⟩ hlong

end Generator

/-- A disk with nothing but the directories that lead to a place. -/
def Disk.leadingTo : Place → Disk
  | [] => empty
  | name :: place => (leadingTo place).add place name .directory

/-- On such a disk there are the directories above the place, and nothing else. -/
theorem Disk.get?_leadingTo {place : Place} (h : ∀ step ∈ place, Path.IsName step)
    (other : Place) :
    (leadingTo place).get? other = if other <:+ place then some .directory else none := by
  induction place generalizing other with
  | nil =>
    show ((∅ : Std.TreeMap Place Entry).insert [] .directory)[other]? = _
    rw [getElem?_insert_place]
    by_cases hother : other = []
    · rw [if_pos hother.symm, if_pos (List.suffix_nil.2 hother)]
    · rw [if_neg fun hsame => hother hsame.symm,
        if_neg fun hsuffix => hother (List.suffix_nil.1 hsuffix)]
      rfl
  | cons name place ih =>
    obtain ⟨hname, hplace⟩ := List.forall_mem_cons.1 h
    have hparent : (leadingTo place).get? place = some .directory := by
      rw [ih hplace, if_pos List.suffix_rfl]
    have hfree : (leadingTo place).get? (name :: place) = none := by
      rw [ih hplace, if_neg]
      intro hsuffix
      have hlength := hsuffix.length_le
      rw [List.length_cons] at hlength
      omega
    rw [leadingTo, get?_add hparent hfree hname, ih hplace]
    by_cases hother : name :: place = other
    · rw [if_pos hother, if_pos (List.suffix_cons_iff.2 (Or.inl hother.symm))]
    · have hcons : other <:+ name :: place ↔ other <:+ place := by
        rw [List.suffix_cons_iff]
        exact or_iff_right fun hsame => hother hsame.symm
      rw [if_neg hother]
      simp only [hcons]

/-- The path `.` leads to where relative paths start from. -/
theorem Disk.arrive_here {disk : Disk} (h : disk.get? disk.home = some .directory) (gait : Gait) :
    disk.arrive gait "." = .ok (.directory disk.home) := by
  have hpieces : Path.split "." = ["."] := by decide +kernel
  have hrelative : Path.isAbsolute "." = false := by decide +kernel
  rw [arrive, if_neg (by decide), if_neg (by decide), if_neg (by decide +kernel), hrelative,
    hpieces]
  simp [linkLimit, walk, walkPieces, h]

/-- A source as in the little world, and a disk with nothing but the directories that lead to a
    place, where relative paths start from. -/
def World.standingIn (place : Place) : World Steady :=
  ⟨⟨0x80000000⟩, { Disk.leadingTo place with home := place }, #[]⟩

/-- A place whose path has 4080 bytes. -/
def Place.deep : Place := List.replicate 16 (String.ofList (List.replicate 254 'd'))

/-- A generator of fixtures with four files and no directories, where it stands. -/
def Generator.shallow : Generator :=
  { little with settings := { little.settings with depth := 0, maxFiles := 7, root := "." } }

namespace Generator

/-- Where relative paths start from there is room for a fixture, if there is nothing else. -/
theorem clear_standingIn {generator : Generator} {name : String} {place : Place}
    (hroot : generator.settings.root = ".") (hsteps : ∀ step ∈ place, Path.IsName step)
    (hplain : Path.isPlainName name = true) (hnul : '\x00' ∉ name.toList)
    (hshort : (name ++ ledgerSuffix).utf8ByteSize ≤ Path.nameLimit) :
    Clear generator name (World.standingIn place) place := by
  have hview := Disk.get?_leadingTo hsteps
  have hhome : (World.standingIn place).disk.get? place = some .directory := by
    show (Disk.leadingTo place).get? place = _
    rw [hview, if_pos List.suffix_rfl]
  have hfree : ∀ other, (World.standingIn place).disk.get? (other :: place) = none := by
    intro other
    show (Disk.leadingTo place).get? (other :: place) = _
    rw [hview, if_neg]
    intro hsuffix
    have hlength := hsuffix.length_le
    rw [List.length_cons] at hlength
    omega
  have hresolve : (World.standingIn place).disk.resolve generator.settings.root = .ok place := by
    rw [hroot, Disk.resolve, Disk.findAt, Disk.arrive_here hhome]
    rfl
  exact {
    resolves := hresolve
    base_directory := hhome
    plain := hplain
    no_nul := hnul
    short := hshort
    target_free := hfree name
    ledger_free := hfree _ }

theorem isName_of_mem_deep : ∀ step ∈ Place.deep, Path.IsName step := by
  intro step hstep
  rw [List.eq_of_mem_replicate hstep]
  decide +kernel

/-- Above that place paths have room for fifteen bytes more. -/
theorem isSpellable_append_deep {name : String} {place : Place} :
    Path.isSpellable (name :: place ++ Place.deep) = true ↔
      ((name :: place).map fun step => step.utf8ByteSize + 1).sum < 16 := by
  have hsize : (String.ofList (List.replicate 254 'd')).utf8ByteSize = 254 := by decide +kernel
  have hdeep : (Place.deep.map fun step => step.utf8ByteSize + 1).sum = 4080 := by
    rw [Place.deep, List.map_replicate, hsize]
    rfl
  have hlimit : Path.sizeLimit = 4096 := rfl
  have hnameLimit : Path.nameLimit = 255 := rfl
  rw [List.cons_append, Path.isSpellable_cons_iff, ← List.cons_append, List.map_append,
    List.sum_append, hdeep, List.map_cons, List.sum_cons]
  -- a last name that is too long would not fit into the path either
  omega

/-- The shallow generator runs out of room there when three files are whole. -/
theorem shallow_sketched : ∃ sketch, shallow.sketchFill
      (fun place => !Path.isSpellable (place ++ "thorn" :: Place.deep))
      shallow.settings.depth.toNat [] (Sketch.start (World.standingIn Place.deep).source) =
        .error (.refused .createFile ["caaac.dat"] .nameTooLong) sketch ∧
    sketch.history.lines = [("cac.dat", "bbb"), ("abba.dat", "ccac"), ("bcbb.dat", "aaaa")] := by
  have hblocked : (fun place => !Path.isSpellable (place ++ "thorn" :: Place.deep)) =
      fun place =>
        decide (16 ≤ ((place ++ ["thorn"]).map fun step => step.utf8ByteSize + 1).sum) := by
    funext place
    have hspell : Path.isSpellable (place ++ "thorn" :: Place.deep) = true ↔
        ((place ++ ["thorn"]).map fun step => step.utf8ByteSize + 1).sum < 16 := by
      rw [List.append_cons]
      cases place with
      | nil => exact isSpellable_append_deep
      | cons last parent => exact isSpellable_append_deep
    rw [Bool.eq_iff_iff, Bool.not_eq_true', decide_eq_true_iff, ← Bool.not_eq_true, hspell]
    exact Nat.not_lt
  rw [hblocked]
  exact exists_of_refusal? (fun sketch : Sketch Steady => sketch.history.lines) (by decide +kernel)

/-- Deep in a disk the shallow generator fails after three files, whose lines are in the ledger. -/
theorem shallow_fails_cleanly :
    ∃ target ledger opened failure after,
      shallow.openFixture "thorn" (World.standingIn Place.deep) = .ok (target, ledger) opened ∧
      shallow.generate "thorn" (World.standingIn Place.deep) = .error (.failed failure) after ∧
      ∃ base plot sketch,
        shallow.fill shallow.settings.depth.toNat target
          (startPlot (announced target opened) ledger) = .error (.failed failure) plot ∧
        Interrupted shallow "thorn" (World.standingIn Place.deep) failure after base plot sketch ∧
        sketch.history.lines =
          [("cac.dat", "bbb"), ("abba.dat", "ccac"), ("bcbb.dat", "aaaa")] := by
  have hclear : Clear shallow "thorn" (World.standingIn Place.deep) Place.deep :=
    clear_standingIn rfl isName_of_mem_deep (by decide +kernel) (by decide) (by decide +kernel)
  have hvalid : shallow.settings.fault? = none := by decide +kernel
  have hplain : shallow.LedgerPlain "thorn" (World.standingIn Place.deep) := by
    intro base hbase
    cases hclear.base?_eq.symm.trans hbase
    exact Or.inl hclear.ledger_free
  have hspell : Path.isSpellable (["thorn"] ++ Place.deep) = true :=
    isSpellable_append_deep.2 (by decide +kernel)
  have hledgerSpell : Path.isSpellable (["thorn" ++ ledgerSuffix] ++ Place.deep) = true :=
    isSpellable_append_deep.2 (by decide +kernel)
  obtain ⟨sketch, hsketched, hlines⟩ := shallow_sketched
  obtain ⟨target, ledger, opened, after, hopen, hfailed⟩ :=
    hclear.fails hspell hledgerSpell hsketched
  obtain ⟨base, plot, sketch', hfill, hinterrupted⟩ :=
    generate_fails_cleanly hvalid hplain hopen hfailed
  refine ⟨target, ledger, opened, _, after, hopen, hfailed, base, plot, sketch', hfill,
    hinterrupted, ?_⟩
  -- there is but one sketch
  obtain ⟨task, place, -, hother⟩ := hinterrupted.refused
  cases hclear.base?_eq.symm.trans hinterrupted.base_eq
  cases hsketched.symm.trans hother
  exact hlines

end Generator

end Thicket
