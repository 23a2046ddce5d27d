/-
  The names of fixtures.

  A name comes from outside and becomes part of two paths, so it must not lead anywhere else.  It is
  tested once, before anything else is done.

  1. **Accepted** — a call refuses a parameter only for its name (`generate_eq_invalid`), so a
     plain name passes; and a name that is not plain is refused before anything is looked at.
  2. **Where accepted names lead** — joined to the path of a place, a plain name is one component
     more, and a walk of the joined path that arrives is at the entry of that name (`IsChild`).  The
     suffix of a ledger makes a plain name from a plain name, and another one.

  Both parts are put together in `generate_takes_plain_names`.  The second part does not depend on
  what is on the disk: it is stated for every disk on which the place is there and is no link, and
  a resolved place is never a link.
-/
import Thicket.Proofs.Fixture.Refusal
import Thicket.Proofs.Ledger.Replacing

namespace Thicket

/-! ## Children

  With a NUL in it the name passes the test and no walk of the path arrives, which `IsChild`
  allows for. -/

/-- The path leads to the entry of a name in the directory at a place, and to nothing else: the name
    is its last component and those before it are the place's; where there is a directory at the
    place, a walk of the path arrives at that entry, if the path can be walked at all; and whatever
    there is at the place but a link, a walk arrives nowhere else. -/
structure Path.IsChild (base : Place) (name path : String) : Prop where
  components_eq : Path.components path = Path.components (Path.ofPlace base) ++ [.name name]
  reaches : ∀ disk : Disk, disk.get? base = some .directory → '\x00' ∉ name.toList →
    Path.fits path = true → disk.arrive Disk.stopping path = .ok (.slot base name false)
  arrives : ∀ (disk : Disk) (arrival : Arrival), disk.get? base ≠ none →
    (∀ target, disk.get? base ≠ some (.link target)) →
    disk.arrive Disk.stopping path = .ok arrival → arrival = .slot base name false

/-- **A plain name joined to the path of a place leads to its child.** -/
theorem Path.isChild_join {base : Place} {name : String} (hsteps : ∀ step ∈ base, Path.IsStep step)
    (hname : Path.isPlainName name = true) :
    Path.IsChild base name (Path.join (Path.ofPlace base) name) where
  components_eq := by
    refine Path.components_join ?_ hname
    cases base with
    | nil => decide
    | cons last above => exact Path.ofPlace_cons_ne_empty last above
  reaches disk hbase hnul hfits := by
    rw [Path.join_ofPlace hsteps] at hfits ⊢
    rw [Disk.stopping,
      Disk.arrive_ofPlace (Path.isStep_of_isPlainName hname hnul) hbase (Or.inl rfl), if_pos hfits]
  arrives disk arrival hexists hlink harrive := by
    rw [Path.join_ofPlace hsteps] at harrive
    by_cases hnul : '\x00' ∈ name.toList
    · -- a path with a NUL in it is refused before it is walked
      rw [Disk.arrive, if_pos (Path.contains_nul_ofPlace.2 ⟨name, List.mem_cons_self .., hnul⟩)]
        at harrive
      cases harrive
    · have hstep : Path.IsStep name := Path.isStep_of_isPlainName hname hnul
      by_cases hbase : disk.get? base = some .directory
      · rw [Disk.stopping, Disk.arrive_ofPlace hstep hbase (Or.inl rfl)] at harrive
        split at harrive
        · cases harrive
          rfl
        · cases harrive
      · have hrefused : ∃ cause, disk.arrive Disk.stopping (Path.ofPlace (name :: base)) =
            .error cause := Disk.arrive_ofPlace_of_not_directory hstep hexists hbase hlink
        obtain ⟨cause, hcause⟩ := hrefused
        rw [hcause] at harrive
        cases harrive

/-- Paths to children of different names are different. -/
theorem Path.IsChild.name_eq {base : Place} {name other path : String}
    (h : Path.IsChild base name path) (h' : Path.IsChild base other path) : name = other := by
  have hsame := List.append_cancel_left (h.components_eq.symm.trans h'.components_eq)
  cases hsame
  rfl

/-- Behind a plain name the suffix of ledgers makes another plain name. -/
theorem Path.isPlainName_ledger {name : String} (h : Path.isPlainName name = true) :
    Path.isPlainName (name ++ Generator.ledgerSuffix) = true := by
  have hlength : 4 ≤ (name ++ Generator.ledgerSuffix).toList.length := by
    have hsuffix : Generator.ledgerSuffix.toList.length = 4 := by decide
    rw [String.toList_append, List.length_append, hsuffix]
    exact Nat.le_add_left ..
  have hne : ∀ other : String, other.toList.length < 4 →
      name ++ Generator.ledgerSuffix ≠ other := by
    rintro other hother rfl
    omega
  obtain ⟨-, -, -, hslash⟩ := Path.isPlainName_iff.1 h
  refine Path.isPlainName_iff.2 ⟨hne _ (by decide), hne _ (by decide), hne _ (by decide), ?_⟩
  rw [String.toList_append, List.mem_append, not_or]
  exact ⟨hslash, by decide⟩

namespace Generator

variable {σ : Type}

/-! ## Accepted names

  The paths that a call opens are joined to the path of the base, so what is known of joined
  paths is known of them. -/

/-- What is opened for a fixture are two children of the place that the root resolves to. -/
theorem joined_of_openFixture {generator : Generator} {name target : String} {ledger : Ledger}
    {world opened : World σ} (h : generator.openFixture name world = .ok (target, ledger) opened) :
    ∃ base, generator.base? world = some base ∧ target = Path.join (Path.ofPlace base) name ∧
      ledger.path = Path.join (Path.ofPlace base) (name ++ ledgerSuffix) := by
  obtain ⟨base, rooted, hbase, -, hfounded⟩ := openFixture_eq_ok h
  obtain ⟨-, -, -, hpath⟩ := openLedger_eq_ok hfounded.ledger_opened
  have hexists : rooted.disk.get? base ≠ none := by simp [hfounded.base_directory]
  have hsteps := Disk.isStep_of_mem hexists
  refine ⟨base, hbase, ?_, ?_⟩
  · rw [Path.join_ofPlace hsteps, hfounded.target_eq]
  · rw [Path.join_ofPlace hsteps, hpath]

variable [WordSource σ]

/-- A name that is not plain is refused at once. -/
theorem generate_of_not_plain {generator : Generator} {name : String}
    (h : ¬ Path.isPlainName name = true) (world : World σ) :
    generator.generate name world = .error (.failed (.invalid (.nameNotPlain name))) world := by
  have hopen : generator.openFixture name world =
      .error (.failed (.invalid (.nameNotPlain name))) world := by
    rw [openFixture, if_neg h]
    rfl
  rw [generate, run_bind_of_error hopen]

/-- **Which names are taken, and where they lead.**  A name passes if it is not empty, has no
    slash and does not stand for a directory by itself.  A call that is made with such a name
    never ends with a refusal of a parameter; with any other name it does so at once, on every
    world alike, and leaves the world as it was.  Wherever a root resolves to, the paths of the
    fixture and of the ledger lead to two different children of that place, and a call opens no
    others. -/
theorem generate_takes_plain_names (generator : Generator) (name : String) :
    (Path.isPlainName name = true ↔
      name ≠ "" ∧ '/' ∉ name.toList ∧ name ≠ "." ∧ name ≠ "..") ∧
    (Path.isPlainName name = true → ∀ (world after : World σ) (fault : Fault),
      generator.generate name world ≠ .error (.failed (.invalid fault)) after) ∧
    (¬ Path.isPlainName name = true → ∀ world : World σ,
      generator.generate name world =
        .error (.failed (.invalid (.nameNotPlain name))) world) ∧
    (Path.isPlainName name = true → ∀ (disk : Disk) (root : String) (base : Place),
      disk.resolve root = .ok base →
        Path.IsChild base name (Path.join (Path.ofPlace base) name) ∧
        Path.IsChild base (name ++ ledgerSuffix)
          (Path.join (Path.ofPlace base) (name ++ ledgerSuffix)) ∧
        name ≠ name ++ ledgerSuffix ∧
        Path.join (Path.ofPlace base) name ≠
          Path.join (Path.ofPlace base) (name ++ ledgerSuffix)) ∧
    ∀ (world opened : World σ) (target : String) (ledger : Ledger),
      generator.openFixture name world = .ok (target, ledger) opened →
        ∃ base, generator.base? world = some base ∧
          target = Path.join (Path.ofPlace base) name ∧
          ledger.path = Path.join (Path.ofPlace base) (name ++ ledgerSuffix) := by
  refine ⟨?_, ?_, generate_of_not_plain, ?_, fun _ _ _ _ => joined_of_openFixture⟩
  · rw [Path.isPlainName_iff]
    tauto
  · intro hplain world after fault hgenerate
    exact (generate_eq_invalid hgenerate).1 hplain
  · intro hplain disk root base hresolve
    -- what a root resolves to is there, so its path is made of names
    have hsteps := Disk.isStep_of_mem (Disk.get?_of_resolve hresolve).1
    have htarget := Path.isChild_join hsteps hplain
    have hledger := Path.isChild_join hsteps (Path.isPlainName_ledger hplain)
    refine ⟨htarget, hledger, name_ne_append_suffix name, ?_⟩
    intro hsame
    rw [← hsame] at hledger
    exact name_ne_append_suffix name (htarget.name_eq hledger)

/-- Three points are a plain name, and the little generator opens a fixture and a ledger of that
    name below the top of the disk.  A name with a slash is refused, also when only a point
    follows. -/
theorem little_takes_plain_names :
    Path.isPlainName "..." = true ∧ ¬ Path.isPlainName "f/." = true ∧
    (∀ (after : World Steady) (fault : Fault),
      little.generate "..." World.little ≠ .error (.failed (.invalid fault)) after) ∧
    little.generate "f/." World.little =
      .error (.failed (.invalid (.nameNotPlain "f/."))) World.little ∧
    Disk.empty.resolve "/" = .ok [] ∧
    Path.IsChild [] "..." (Path.join (Path.ofPlace []) "...") ∧
    Path.IsChild [] ("..." ++ ledgerSuffix) (Path.join (Path.ofPlace []) ("..." ++ ledgerSuffix)) ∧
    ∃ target ledger opened, little.openFixture "..." World.little = .ok (target, ledger) opened ∧
      target = "/..." ∧
      ∃ base, little.base? World.little = some base ∧
        target = Path.join (Path.ofPlace base) "..." ∧
        ledger.path = Path.join (Path.ofPlace base) ("..." ++ ledgerSuffix) := by
  have hplain : Path.isPlainName "..." = true := by decide +kernel
  have hother : ¬ Path.isPlainName "f/." = true := by decide +kernel
  have hroot : Disk.empty.resolve "/" = .ok [] := by decide +kernel
  obtain ⟨-, haccepted, -, hchildren, hopened⟩ :=
    generate_takes_plain_names (σ := Steady) little "..."
  obtain ⟨-, -, hrefused, -, -⟩ := generate_takes_plain_names (σ := Steady) little "f/."
  obtain ⟨htarget, hledger, -, -⟩ := hchildren hplain _ _ _ hroot
  have hopening : (answer? (little.openFixture "..." World.little)).map Prod.fst = some "/..." := by
    decide +kernel
  cases hrun : little.openFixture "..." World.little with
  | error stop after =>
    rw [hrun] at hopening
    cases hopening
  | ok opening opened =>
    rw [hrun] at hopening
    obtain ⟨target, ledger⟩ := opening
    exact ⟨hplain, hother, haccepted hplain World.little, hrefused hother World.little, hroot,
      htarget, hledger, target, ledger, opened, rfl, Option.some.inj hopening,
      hopened _ _ _ _ hrun⟩

end Generator

end Thicket
