/-
  What a completed fixture is.

  If there is no link where the ledger is to be, an opened fixture is all that is needed for the
  tree to grow as its sketch does: the plot that the growing starts from realises the empty sketch
  (`startPlot_realises`).  So when `generate` succeeds, there is a sketch that came to its end,
  and everything that the call leaves behind can be read off its history (`generate_eq_ok`): the
  entries below the fixture directory, the ledger's text, the tallies, the reports and the state
  of the source.

  1. **The ledger's place** — it is beside the fixture and not in it (`ledgerPlace_outside`), so
     writing lines and growing the tree do not disturb each other.
  2. **The start** — the directory of the fixture is new and empty, and the ledger is at the start
     of an empty file, or on the full device (`Founded.ledgerOpened`).
  3. **The end** — `Completed` is what a sketch and a world have to do with each other when a call
     has succeeded.  Results about completed fixtures start from `generate_eq_ok` and speak of
     histories from there on; the program itself is not looked at again.

  The little fixture at the end is what those results are tried out on: three directories, three
  files and a few tags, from a source that is easy to follow.
-/
import Thicket.Proofs.Fixture.Opening
import Thicket.Proofs.Sketch.Programs

namespace Thicket

variable {σ : Type}

namespace Generator

/-! ## The ledger's place

  The name of the ledger is longer than that of the fixture, and both are names in the same
  directory. -/

/-- The place of the ledger of a fixture in a base directory. -/
def ledgerPlace (name : String) (base : Place) : Place := (name ++ ledgerSuffix) :: base

/-- There is no link where the ledger is to be. -/
def LedgerUnlinked (generator : Generator) (name : String) (world : World σ) : Prop :=
  ∀ base, generator.base? world = some base →
    ∀ target, world.disk.get? (ledgerPlace name base) ≠ some (.link target)

/-- A name with the suffix is another name. -/
theorem name_ne_append_suffix (name : String) : name ≠ name ++ ledgerSuffix := by
  intro h
  have hlength := congrArg (fun text => text.toList.length) h
  simp [String.toList_append, ledgerSuffix] at hlength

/-- So the ledger is not at the place of the fixture. -/
theorem ledgerPlace_ne (name : String) (base : Place) : name :: base ≠ ledgerPlace name base :=
  fun h => name_ne_append_suffix name (List.cons.inj h).1

/-- The ledger is not in the tree. -/
theorem ledgerPlace_outside (name : String) (base : Place) :
    ¬ (name :: base) <:+ ledgerPlace name base := by
  intro h
  exact ledgerPlace_ne name base (h.eq_of_length rfl)

/-- Making the fixture directory changes neither the directory that holds it nor what is at the
    ledger's place. -/
theorem get?_beside_made {disk : Disk} {name : String} {base : Place} (hname : Path.IsStep name)
    (hbase : disk.get? base = some .directory) (hspell : Path.isSpellable (name :: base) = true)
    (hfree : disk.get? (name :: base) = none) :
    (disk.add base name .directory).get? base = some .directory ∧
      (disk.add base name .directory).get? (ledgerPlace name base) =
        disk.get? (ledgerPlace name base) := by
  have hmade : ∀ other, (disk.add base name .directory).get? other =
      if name :: base = other then some .directory else disk.get? other :=
    Disk.get?_add_of_isSpellable hname hbase hspell hfree
  constructor
  · rw [hmade, if_neg (List.cons_ne_self name base), hbase]
  · rw [hmade, if_neg (ledgerPlace_ne name base)]

/-! ## The start

  Between the opening of the fixture and the growing of its tree nothing happens but a report. -/

variable {name : String} {base : Place} {rooted opened : World σ} {target : String}
  {ledger : Ledger}

/-- The fixture directory is made, and nothing else. -/
theorem Founded.get?_made (h : Founded name base rooted target ledger opened) (other : Place) :
    (rooted.disk.add base name .directory).get? other =
      if name :: base = other then some .directory else rooted.disk.get? other :=
  Disk.get?_add_of_isSpellable h.name_isStep h.base_directory h.target_spellable h.target_free other

/-- How the ledger stands once it is opened: at the start of an empty file, or on the device. -/
structure LedgerOpened (name : String) (base : Place) (rooted : World σ) (ledger : Ledger)
    (opened : World σ) : Prop where
  path : ledger.path = Path.ofPlace (ledgerPlace name base)
  buffer : ledger.buffer = .empty
  entries : ledger.entries = 0
  sink : (ledger.sink = .file (ledgerPlace name base) 0 ∧
      rooted.disk.get? (ledgerPlace name base) ≠ some .fullDevice ∧
      ∀ other, opened.disk.get? other =
        if ledgerPlace name base = other then some (.file .empty)
        else (rooted.disk.add base name .directory).get? other) ∨
    (ledger.sink = .full ∧ rooted.disk.get? (ledgerPlace name base) = some .fullDevice ∧
      opened.disk = rooted.disk.add base name .directory)
  notices : ∃ replaced : List Notice, opened.notices = rooted.notices ++ replaced.toArray ∧
    ∀ notice ∈ replaced, ∃ path, notice = .ledgerReplaced path

/-- How the ledger stands, from what was at its place: nothing, a file, or the full device. -/
theorem Founded.ledgerOpened (h : Founded name base rooted target ledger opened)
    (hlink : ∀ target, rooted.disk.get? (ledgerPlace name base) ≠ some (.link target)) :
    LedgerOpened name base rooted ledger opened := by
  have hname : Path.IsStep (name ++ ledgerSuffix) :=
    h.name_isStep.append (by decide) (by decide) (by decide)
  obtain ⟨hbase, hplace⟩ :=
    get?_beside_made h.name_isStep h.base_directory h.target_spellable h.target_free
  have hopened := h.ledger_opened
  rw [openLedger_ofPlace hname hbase (by rw [← ledgerPlace, hplace]; exact hlink)] at hopened
  have hnotices : ∀ path, ∃ replaced : List Notice,
      rooted.notices ++ (Ledger.openingNotices (rooted.disk.add base name .directory) path).toArray
        = rooted.notices ++ replaced.toArray ∧
      ∀ notice ∈ replaced, ∃ path, notice = .ledgerReplaced path := by
    intro path
    refine ⟨_, rfl, ?_⟩
    intro notice hnotice
    rw [Ledger.openingNotices] at hnotice
    split at hnotice
    · exact ⟨path, List.mem_singleton.1 hnotice⟩
    · cases hnotice
  dsimp only at hopened
  -- first whether the path is short enough, then what is at the place: nothing, a file, the full
  -- device
  split at hopened
  · rename_i hspell
    rw [← ledgerPlace, hplace] at hopened
    split at hopened
    · rename_i hentry
      cases hopened
      refine ⟨rfl, rfl, rfl, Or.inl ⟨rfl, by simp [hentry], ?_⟩, hnotices _⟩
      exact Disk.get?_add_of_isSpellable hname hbase hspell (hplace.trans hentry)
    · rename_i content hentry
      cases hopened
      refine ⟨rfl, rfl, rfl, Or.inl ⟨rfl, by simp [hentry], ?_⟩, hnotices _⟩
      exact Disk.get?_setContent (hplace.trans hentry) _
    · rename_i hentry
      cases hopened
      exact ⟨rfl, rfl, rfl, Or.inr ⟨rfl, hentry, rfl⟩, hnotices _⟩
    · cases hopened
  · cases hopened

/-- What a fixture grows on once its ledger is open. -/
def LedgerOpened.ground (h : LedgerOpened name base rooted ledger opened)
    (start : World σ) : Ground where
  top := name :: base
  disk := start.disk
  notices := start.notices
  ledgerPath := ledger.path
  ledgerPlace := ledger.place?
  ledger_outside := by
    intro place hplace
    rcases h.sink with ⟨hsink, -, -⟩ | ⟨hsink, -, -⟩
    · cases (Ledger.place?_of_file hsink).symm.trans hplace
      exact ledgerPlace_outside name base
    · cases (Ledger.place?_of_full hsink).symm.trans hplace

end Generator

/-- The sketch from which growing starts. -/
def Sketch.start (source : σ) : Sketch σ := ⟨⟨0, .empty, []⟩, source⟩

namespace Generator

variable {name : String} {base : Place} {rooted opened : World σ} {target : String}
  {ledger : Ledger}

/-- **Growing starts where the sketch does.** Below the new directory there is nothing, for on a
    disk what has something below it is a directory, and there was none; and the ledger's file
    is empty. -/
theorem Founded.startPlot_realises (h : Founded name base rooted target ledger opened)
    (hledger : LedgerOpened name base rooted ledger opened) (notices : Array Notice) :
    Realises (hledger.ground { opened with notices })
      (startPlot { opened with notices } ledger) (Sketch.start opened.source) := by
  have hfree : ∀ place, place ≠ [] → rooted.disk.get? (place ++ name :: base) = none := by
    intro place hne
    -- something below the directory would need the directory
    by_contra hexists
    have habove := Disk.get?_of_append hne hexists
    rw [h.target_free] at habove
    cases habove
  have hmade : ∀ place, (rooted.disk.add base name .directory).get? (place ++ name :: base) =
      History.entryAt [] place := by
    intro place
    rw [h.get?_made, History.entryAt]
    by_cases hplace : place = []
    · rw [hplace, List.nil_append, if_pos rfl, if_pos rfl]
    · rw [if_neg hplace, if_neg ?_, hfree place hplace]
      intro hsame
      exact hplace (List.append_left_eq_self.1 hsame.symm)
  -- opening the ledger has changed nothing there
  have hview : ∀ place, opened.disk.get? (place ++ name :: base) = History.entryAt [] place := by
    intro place
    rcases hledger.sink with ⟨-, -, hopened⟩ | ⟨-, -, hopened⟩
    · rw [hopened, if_neg, hmade]
      intro hsame
      exact ledgerPlace_outside name base ⟨place, hsame.symm⟩
    · rw [hopened, hmade]
  exact {
    source := rfl
    counter := rfl
    pool := rfl
    tree := hview
    elsewhere := fun _ _ _ => rfl
    atEnd := by
      rcases hledger.sink with ⟨hsink, -, hopened⟩ | ⟨hsink, -, -⟩
      · show ledger.AtEnd opened.disk
        rw [Ledger.AtEnd, hsink]
        exact ⟨.empty, by rw [hopened, if_pos rfl], rfl⟩
      · show ledger.AtEnd opened.disk
        rw [Ledger.AtEnd, hsink]
        trivial
    account := by
      show ledger.written opened.disk ++ ledger.buffer = _
      rw [hledger.buffer, ByteArray.append_empty, Ledger.written]
      rcases hledger.sink with ⟨hsink, -, hopened⟩ | ⟨hsink, -, -⟩
      · rw [hsink]
        exact Disk.contentAt_of_get? ((hopened _).trans (if_pos rfl))
      · rw [hsink]
        rfl
    entries := hledger.entries
    ledgerPath := rfl
    ledgerPlace := rfl
    directories := rfl
    files := rfl
    payloadBytes := rfl
    notices := by
      show notices = notices ++ _
      simp [Sketch.start, History.notices] }

/-! ## The end

  What the call returns is made from the plot that the growing ended with, once the ledger is
  closed. -/

variable [WordSource σ]

/-- The world in which a fixture starts to grow, once it was opened. -/
def announced (target : String) (opened : World σ) : World σ :=
  { opened with notices := opened.notices.push (.generating target) }

/-- Once the fixture is opened, the rest of the call is to grow its tree and to close. -/
theorem generate_of_opened {generator : Generator} {world : World σ}
    (hopen : generator.openFixture name world = .ok (target, ledger) opened) :
    generator.generate name world =
      generator.close target (generator.fill generator.settings.depth.toNat target
        (startPlot (announced target opened) ledger)) :=
  run_bind_of_ok hopen

omit [WordSource σ] in
/-- What an opened fixture rests on, if there was no link at its ledger's place. -/
theorem exists_ledgerOpened {generator : Generator} {world : World σ}
    (hlink : generator.LedgerUnlinked name world)
    (hopen : generator.openFixture name world = .ok (target, ledger) opened) :
    ∃ base rooted, generator.base? world = some base ∧
      makeRoot generator.settings.root world = .ok () rooted ∧
      (∀ target, rooted.disk.get? (ledgerPlace name base) ≠ some (.link target)) ∧
      Founded name base rooted target ledger opened ∧
      LedgerOpened name base rooted ledger opened := by
  obtain ⟨base, rooted, hbase, hrooted, hfounded⟩ := openFixture_eq_ok hopen
  -- making the root makes no link
  have hunlinked : ∀ target, rooted.disk.get? (ledgerPlace name base) ≠ some (.link target) :=
    fun target hentry =>
      hlink base hbase target ((makeRoot_adds hrooted).of_get?_eq hentry (by simp))
  exact ⟨base, rooted, hbase, hrooted, hunlinked, hfounded, hfounded.ledgerOpened hunlinked⟩

/-- **The tree of an opened fixture grows as its sketch does.** Blocked for the sketch are the
    places whose paths are too long where the fixture is; that is all it gets to know of the
    disk. -/
theorem Founded.fill_matches (h : Founded name base rooted target ledger opened)
    (hledger : LedgerOpened name base rooted ledger opened) (generator : Generator) :
    Matches (hledger.ground (announced target opened)) []
      (generator.fill generator.settings.depth.toNat target
        (startPlot (announced target opened) ledger))
      (generator.sketchFill (fun place => !Path.isSpellable (place ++ name :: base))
        generator.settings.depth.toNat [] (Sketch.start opened.source)) := by
  obtain rfl : target = Path.ofPlace (name :: base) := h.target_eq
  exact fill_simulates generator generator.settings.depth.toNat [] _ _
    (h.startPlot_realises hledger _) rfl

/-- The plot in which the tree of a call stands fully grown, if it comes to that. -/
def grown? (generator : Generator) (name : String) (world : World σ) : Option (Plot σ) :=
  match generator.openFixture name world with
  | .error _ _ => none
  | .ok (target, ledger) opened =>
    match generator.fill generator.settings.depth.toNat target
        (startPlot (announced target opened) ledger) with
    | .error _ _ => none
    | .ok _ plot => some plot

/-- The call succeeded, and what it left behind is what the sketch says.

    Either the ledger's file has the text of all lines, or the ledger is on the full device, and
    then there are none.  The reports before the growing are of other kinds than those of the
    growing. -/
structure Completed (generator : Generator) (name : String) (world : World σ) (base : Place)
    (sketch : Sketch σ) (summary : Summary) (after : World σ) : Prop where
  base_eq : generator.base? world = some base
  sketched : generator.sketchFill (fun place => !Path.isSpellable (place ++ name :: base))
    generator.settings.depth.toNat [] (Sketch.start world.source) = .ok () sketch
  counter : ∃ plot, generator.grown? name world = some plot ∧ plot.counter = sketch.counter
  source : after.source = sketch.source
  tree : ∀ place, after.disk.get? (place ++ name :: base) = sketch.history.entryAt place
  ledger : after.disk.get? (ledgerPlace name base) =
      some (.file (Ledger.text sketch.history.lines).toUTF8) ∨
    world.disk.get? (ledgerPlace name base) = some .fullDevice ∧
      after.disk.get? (ledgerPlace name base) = some .fullDevice ∧ sketch.history.lines = []
  summary_eq : summary = {
    seed := generator.seed
    target := Path.ofPlace (name :: base)
    ledger := Path.ofPlace (ledgerPlace name base)
    directories := sketch.history.directories + 1
    files := sketch.history.files
    payloadBytes := sketch.history.payloadBytes
    ledgerEntries := sketch.history.lines.length
    distinctTags := sketch.pool.size }
  notices : ∃ opening : List Notice,
    after.notices =
      world.notices ++ (opening ++ sketch.history.notices (name :: base)).toArray ∧
    ∀ notice ∈ opening, ∀ path depth slots files, notice ≠ .filled path depth slots files

/-- The directory of a completed fixture is there. -/
theorem Completed.get?_top {generator : Generator} {name : String} {world after : World σ}
    {base : Place} {sketch : Sketch σ} {summary : Summary}
    (h : Completed generator name world base sketch summary after) :
    after.disk.get? (name :: base) = some .directory := by
  have htop := h.tree []
  rw [History.entryAt_nil] at htop
  exact htop

omit [WordSource σ] in
/-- Making the root reports at most that it was missing. -/
theorem makeRoot_notices {root : String} {world rooted : World σ}
    (h : makeRoot root world = .ok () rooted) :
    ∃ missing : List Notice, rooted.notices = world.notices ++ missing.toArray ∧
      ∀ notice ∈ missing, notice = .rootMissing root := by
  rcases makeRoot_eq_ok h with ⟨-, rfl⟩ | ⟨-, disk, -, rfl⟩
  · exact ⟨[], by simp, by simp⟩
  · exact ⟨[.rootMissing root], by simp, by simp⟩

omit [WordSource σ] in
/-- Before its tree grows a call reports no directory as filled. -/
theorem exists_opening_notices {root : String} {world : World σ}
    (hrooted : makeRoot root world = .ok () rooted)
    (hledger : LedgerOpened name base rooted ledger opened) (target : String) :
    ∃ opening : List Notice,
      (announced target opened).notices = world.notices ++ opening.toArray ∧
      ∀ notice ∈ opening, ∀ path depth slots files, notice ≠ .filled path depth slots files := by
  obtain ⟨missing, hmissing, hroot⟩ := makeRoot_notices hrooted
  obtain ⟨replaced, hreplaced, hwarning⟩ := hledger.notices
  refine ⟨missing ++ replaced ++ [.generating target], ?_, ?_⟩
  · show opened.notices.push _ = _
    rw [hreplaced, hmissing]
    simp
  · intro notice hnotice path depth slots files heq
    simp only [List.mem_append, List.mem_singleton] at hnotice
    rcases hnotice with (hnotice | hnotice) | hnotice
    · rw [hroot notice hnotice] at heq
      cases heq
    · obtain ⟨path', hpath'⟩ := hwarning notice hnotice
      rw [hpath'] at heq
      cases heq
    · rw [hnotice] at heq
      cases heq

omit [WordSource σ] in
/-- A call succeeds only if the tree was grown and the ledger closed. -/
theorem close_eq_ok {generator : Generator} {grown : EStateM.Result Stop (Plot σ) Unit}
    {summary : Summary} {after : World σ} (h : generator.close target grown = .ok summary after) :
    ∃ plot entries disk, grown = .ok () plot ∧
      plot.ledger.finish plot.disk = (.ok entries, disk) ∧
      after = { plot.toWorld with disk } ∧
      summary = {
        seed := generator.seed
        target
        ledger := plot.ledger.path
        directories := plot.directories
        files := plot.files
        payloadBytes := plot.payloadBytes
        ledgerEntries := entries
        distinctTags := plot.pool.size } := by
  rw [close.eq_def] at h
  cases grown with
  | error stop plot => cases h
  | ok _ plot =>
    dsimp only at h
    cases hfinish : plot.ledger.finish plot.disk with
    | mk outcome disk =>
      rw [hfinish] at h
      cases outcome with
      | error failure => cases h
      | ok entries =>
        cases h
        exact ⟨plot, entries, disk, rfl, hfinish, rfl, rfl⟩

/-- **What a successful call leaves behind**, read off the history of its sketch.  The tree has
    grown as its sketch did; closing the ledger puts the rest of its account on the disk and
    changes nothing else. -/
theorem generate_eq_ok {generator : Generator} {world after : World σ} {summary : Summary}
    (hlink : generator.LedgerUnlinked name world)
    (h : generator.generate name world = .ok summary after) :
    ∃ base sketch, Completed generator name world base sketch summary after := by
  cases hopen : generator.openFixture name world with
  | error stop opened =>
    rw [generate, run_bind_of_error hopen] at h
    cases h
  | ok opening opened =>
    obtain ⟨target, ledger⟩ := opening
    rw [generate_of_opened hopen] at h
    obtain ⟨plot, entries, disk, hfill, hfinish, rfl, hsummary⟩ := close_eq_ok h
    obtain ⟨base, rooted, hbase, hrooted, -, hfounded, hledger⟩ :=
      exists_ledgerOpened hlink hopen
    -- the tree has grown as its sketch did
    have hsim := hfounded.fill_matches hledger generator
    rw [hfill] at hsim
    obtain ⟨sketch, hsketched, hreal, -⟩ := hsim
    rw [source_of_openFixture hopen] at hsketched
    -- closing puts the rest of the account on the disk
    have hclosed := Ledger.finish_accounts hreal.atEnd
    rw [hfinish] at hclosed
    obtain ⟨hentries, helsewhere, hfile, hdevice⟩ := hclosed
    refine ⟨base, sketch, ?_⟩
    exact {
      base_eq := hbase
      sketched := hsketched
      counter := by
        refine ⟨plot, ?_, hreal.counter⟩
        rw [grown?, hopen]
        dsimp only
        rw [hfill]
      source := hreal.source
      tree := by
        intro place
        rw [← hreal.tree place]
        refine helsewhere _ ?_
        rw [hreal.ledgerPlace]
        exact fun hsame => (hledger.ground _).ledger_outside _ hsame.symm ⟨place, rfl⟩
      ledger := by
        have hplace : plot.ledger.place? = ledger.place? := hreal.ledgerPlace
        rw [hreal.account] at hfile hdevice
        rcases hledger.sink with ⟨hsink, -, -⟩ | ⟨hsink, hfull, hopened⟩
        · exact Or.inl (hfile _ (hplace.trans (Ledger.place?_of_file hsink)))
        · have hnone : plot.ledger.place? = none := hplace.trans (Ledger.place?_of_full hsink)
          refine Or.inr ⟨(makeRoot_adds hrooted).of_get?_eq hfull (by simp), ?_,
            Ledger.toUTF8_text_eq_empty (hdevice hnone)⟩
          rw [helsewhere _ (by rw [hnone]; exact Option.some_ne_none _),
            hreal.elsewhere _ (ledgerPlace_outside name base)
              (by rw [← hreal.ledgerPlace, hnone]; exact Option.some_ne_none _)]
          show opened.disk.get? _ = _
          rw [hopened, hfounded.get?_made, if_neg (ledgerPlace_ne name base), hfull]
      summary_eq := by
        rw [hsummary, hfounded.target_eq, hentries, hreal.entries, hreal.ledgerPath,
          hreal.directories, hreal.files, hreal.payloadBytes, hreal.pool, ← hledger.path]
        rfl
      notices := by
        obtain ⟨opening, hopening, hkinds⟩ := exists_opening_notices hrooted hledger target
        refine ⟨opening, ?_, hkinds⟩
        show plot.notices = _
        rw [hreal.notices]
        show (announced target opened).notices ++ _ = _
        rw [hopening]
        simp [LedgerOpened.ground] }

end Generator

/-! ## A little fixture -/

/-- A source that gives the same word again and again. -/
structure Steady where
  word : UInt32
deriving DecidableEq

instance : WordSource Steady where
  next source := (source.word, source)

/-- A codec with three symbols. -/
def Codec.little : Codec where
  size := 3
  symbols := #v['a', 'b', 'c']
  minLength := 3
  three_le_size := by decide
  alphanumeric := by
    intro c hc
    simp only [Vector.mem_mk, List.mem_toArray, List.mem_cons, List.not_mem_nil, or_false] at hc
    rcases hc with rfl | rfl | rfl <;> rfl
  distinct := by decide
  three_le_minLength := by decide

/-- A generator of fixtures with two directories and a file in each, below the top of the disk. -/
def Generator.little : Generator where
  settings := {
    depth := 1
    branchFactor := 2
    maxFiles := 1
    maxFileSize := 1
    maxTags := 1
    root := "/" }
  seed := 0
  codec := Codec.little
  patience := 1

/-- An empty disk and a source from which the little generator draws the greatest number that it
    asks for. -/
def World.little : World Steady := ⟨⟨0x80000000⟩, Disk.empty, #[]⟩

/-- The little world with a directory in it. -/
def World.roomy : World Steady :=
  { World.little with disk := Disk.empty.add [] "r" .directory }

namespace Generator

theorem little_valid : little.settings.fault? = none := by decide +kernel

theorem little_base : little.base? World.little = some [] := by decide +kernel

theorem little_ledger_free : World.little.disk.get? (ledgerPlace "f" []) = none := by
  decide +kernel

theorem little_ledgerUnlinked : little.LedgerUnlinked "f" World.little := by
  intro base hbase target
  cases little_base.symm.trans hbase
  rw [little_ledger_free]
  exact (Option.some_ne_none _).symm

theorem little_generates : ∃ after, little.generate "f" World.little = .ok {
    seed := 0
    target := "/f"
    ledger := "/f.tag"
    directories := 3
    files := 3
    payloadBytes := 3
    ledgerEntries := 3
    distinctTags := 3 } after :=
  exists_of_answer? (by decide +kernel)

end Generator

end Thicket
