/-
  Making a fixture with every step checked.

  Here a fixture is made the way a machine does it.  A number is asked for from a range that was
  looked at first, identifiers are written on a plain array (`Checked.encode`), and the tree grows
  from the top down: the depth is counted up in a word and compared with the greatest depth in
  every slot.  What fails a check is a breach, and a breach ends everything at once; the ledger is
  not even closed.

  For settings that are not refused there is no breach, whatever the source, the disk and the name:
  the checked call does what the plain one does (`generate_eq_plain`).  The argument goes by steps:

  1. **Steps with checks** — a checked step is a plain one in which nothing fails (`plain`), and
     so is a sequence (`bind_eq_plain`), a choice (`ite_eq_plain`) and a repetition of such steps.
  2. **Making a fixture** — the program once more, with its checks.  What needs none is a plain
     step.
  3. **No check fails** — what is left are the ranges, which the settings bound, the identifiers,
     and the depth, which never passes the greatest one (`build_eq_plain`).

  The two trees grow in different ways: the plain one by the levels that are left, the checked one
  by the depth that was reached.  That they are the same tree is the one induction here; it is on
  the levels, with the depth as what is missing from the greatest one.

  The counter of identifiers and the tallies are taken to be below `2 ^ 64`, as in the plain call.
-/
import Thicket.Proofs.Codec.Checked
import Thicket.Proofs.Fixture.Refusal

namespace Thicket

namespace Checked

variable {σ τ α β : Type}

/-! ## Steps with checks

  A breach is one reason more for ending early, told apart from the others by its side of the
  sum. -/

/-- A step that can end for a breach as well. -/
abbrev Step (τ : Type) := EStateM (Breach ⊕ Stop) τ

/-- The result of a step in which no check failed. -/
def unbroken : EStateM.Result Stop τ α → EStateM.Result (Breach ⊕ Stop) τ α
  | .ok a after => .ok a after
  | .error stop after => .error (.inr stop) after

/-- A step in which there is nothing to check. -/
def plain (step : EStateM Stop τ α) : Step τ α := fun state => unbroken (step state)

/-- Goes on with what was checked. -/
def check (outcome : Except Breach α) : Step τ α := fun state =>
  match outcome with
  | .ok a => .ok a state
  | .error breach => .error (.inl breach) state

/-- A plain step never ends for a breach. -/
theorem plain_ne_breach (step : EStateM Stop τ α) (state : τ) (breach : Breach) (after : τ) :
    plain step state ≠ .error (.inl breach) after := by
  rw [plain]
  cases step state with
  | ok a middle => nofun
  | error stop middle => nofun

/-- A check that succeeds is no step at all. -/
theorem check_bind {outcome : Except Breach α} {a : α} (h : outcome = .ok a)
    (next : α → Step τ β) : check outcome >>= next = next a := by
  rw [h]
  rfl

theorem bind_eq_plain {step : Step τ α} {step' : EStateM Stop τ α} {next : α → Step τ β}
    {next' : α → EStateM Stop τ β} (h : step = plain step') (h' : ∀ a, next a = plain (next' a)) :
    step >>= next = plain (step' >>= next') := by
  funext state
  rw [h, plain]
  -- if the first step ends early the second is not reached, in either sequence
  cases hstep : step' state with
  | ok a after =>
    have hplain : plain step' state = .ok a after := by
      rw [plain, hstep]
      rfl
    rw [run_bind_of_ok hplain, run_bind_of_ok hstep, h' a, plain]
  | error stop after =>
    have hplain : plain step' state = .error (.inr stop) after := by
      rw [plain, hstep]
      rfl
    rw [run_bind_of_error hplain, run_bind_of_error hstep]
    rfl

theorem ite_eq_plain {condition : Prop} [Decidable condition] {yes no : Step τ α}
    {yes' no' : EStateM Stop τ α} (hyes : yes = plain yes') (hno : no = plain no') :
    (if condition then yes else no) = plain (if condition then yes' else no') := by
  rw [hyes, hno]
  by_cases h : condition
  · rw [if_pos h, if_pos h]
  · rw [if_neg h, if_neg h]

/-- Redrawing with a plain attempt is plain, and so is giving up. -/
theorem retry_eq_plain {attempt : Step τ (Option α)} {attempt' : EStateM Stop τ (Option α)}
    (h : attempt = plain attempt') (giveUp : Stop) (patience : Nat) :
    Draw.retry (.inr giveUp) attempt patience = plain (Draw.retry giveUp attempt' patience) := by
  induction patience with
  | zero => rfl
  | succ patience ih =>
    refine bind_eq_plain h fun answer => ?_
    cases answer with
    | none => exact ih
    | some a => rfl

theorem times_eq_plain {step : Step τ Unit} {step' : EStateM Stop τ Unit} (h : step = plain step')
    (count : Nat) : Making.times count step = plain (Making.times count step') := by
  induction count with
  | zero => rfl
  | succ count ih => exact bind_eq_plain h fun _ => ih

/-! ## Making a fixture

  Each definition has the name of the plain one and the same steps, with a check before each
  that could go wrong in a machine. -/

/-- The range of the numbers from one to another, which must not be empty. -/
def range (low high : UInt64) : Except Breach (UInt64 × UInt64) :=
  if low ≤ high then .ok (low, high) else .error .emptyRange

/-- A range with its bounds in order may be asked for. -/
theorem range_eq_ok {low high : UInt64} (h : low ≤ high) : range low high = .ok (low, high) :=
  if_pos h

/-- The next identifier. -/
def mint (codec : Codec) : Step (Plot σ) String := do
  let plot ← get
  let symbols ← check (encode codec.symbols.toArray codec.minLength plot.counter.toNat)
  if plot.counter + 1 = 0 then throw (.inr (.mishap .stalled))
  else do
    set { plot with counter := plot.counter + 1 }
    pure (String.ofList symbols)

/-- Identifiers are written without a breach, and the counter stops before it would wrap around
    in both. -/
theorem mint_eq_plain (codec : Codec) :
    mint codec = plain (Making.nextIdentifier (σ := σ) codec) := by
  funext plot
  rw [mint, run_bind_of_ok run_get, check_bind (encode_eq_ok codec _), plain,
    Making.nextIdentifier]
  by_cases hlast : plot.counter + 1 = 0
  · rw [if_pos hlast, if_pos hlast]
    rfl
  · rw [if_neg hlast, if_neg hlast]
    rfl

variable [WordSource σ]

/-- A number from a range. -/
def between (generator : Generator) (low high : UInt64) : Step (Plot σ) UInt64 := do
  let (low, high) ← check (range low high)
  plain (Making.draw (Draw.between generator.patience low high))

/-- A tag: one in use, or a new one. -/
def pickTag (generator : Generator) : Step (Plot σ) String := do
  let sample ← plain (Making.draw Draw.unit)
  if generator.settings.tagDensity.exceedsSample sample then
    let plot ← get
    match ← plain (Making.draw (Draw.choose generator.patience plot.pool.order)) with
    | some tag => pure tag
    | none => mint generator.codec
  else mint generator.codec

/-- A tag that is none of the given ones. -/
def pickOtherTag (generator : Generator) (taken : List String) : Step (Plot σ) String :=
  Draw.retry (.inr (.mishap .stalled)) (do
    let tag ← pickTag generator
    pure (if taken.contains tag then none else some tag)) generator.patience

/-- Gives a file so many tags more. -/
def tagTimes (generator : Generator) (file : String) : Nat → List String → Step (Plot σ) Unit
  | 0, _ => pure ()
  | count + 1, taken => do
    let tag ← pickOtherTag generator taken
    plain (Making.useTag tag)
    plain (Making.record file tag)
    let plot ← get
    if !plot.pool.isEmpty && generator.settings.isSaturated then pure ()
    else tagTimes generator file count (tag :: taken)

/-- Tags a file. -/
def tagFile (generator : Generator) (file : String) : Step (Plot σ) Unit := do
  let count ← between generator generator.settings.minTags generator.settings.maxTags
  tagTimes generator file count.toNat []

/-- Makes one file in a directory and tags it. -/
def plantFile (generator : Generator) (directory : String) : Step (Plot σ) Unit := do
  let identifier ← mint generator.codec
  let file := identifier ++ Generator.fileSuffix
  let path := Path.join directory file
  let length ← between generator 0 generator.settings.maxFileSize
  let payload ← plain (Making.draw (Draw.bytes length.toNat))
  plain (Making.onDisk .createFile path fun disk => disk.makeFile path payload)
  modify fun plot =>
    { plot with files := plot.files + 1, payloadBytes := plot.payloadBytes + length.toNat }
  tagFile generator file

/-- Fills a directory at a depth: its slots as told, then its files. -/
def fillWith (generator : Generator) (directory : String) (depth : Nat)
    (slot : Step (Plot σ) Unit) : Step (Plot σ) Unit := do
  let slots ← between generator 1 generator.settings.branchFactor
  Making.times slots.toNat slot
  let files ← between generator 0 generator.settings.maxFiles
  Making.times files.toNat (plantFile generator directory)
  plain (Making.onWorld (Act.report (.filled directory depth slots files)))

/-- Grows a tree in a directory at a depth; slots above the greatest depth become directories. -/
def build (generator : Generator) (depth : Nat) (directory : String) : Step (Plot σ) Unit :=
  fillWith generator directory depth do
    let name ← mint generator.codec
    if _ : depth < generator.settings.depth.toNat then do
      let path := Path.join directory name
      plain (Making.onDisk .createDirectory path fun disk => disk.makeDirectory path)
      modify fun plot => { plot with directories := plot.directories + 1 }
      let _ ← check (word (depth + 1))
      build generator (depth + 1) path
termination_by generator.settings.depth.toNat - depth

/-- Closes the ledger, unless there was a breach, and tells the outcome. -/
def close (generator : Generator) (target : String) :
    EStateM.Result (Breach ⊕ Stop) (Plot σ) Unit →
      EStateM.Result (Breach ⊕ Stop) (World σ) Summary
  | .ok () plot => unbroken (generator.close target (.ok () plot))
  | .error (.inr stop) plot => unbroken (generator.close target (.error stop plot))
  | .error (.inl breach) plot => .error (.inl breach) plot.toWorld

/-- Makes the fixture of a name. -/
def generate (generator : Generator) (name : String) : Step (World σ) Summary := do
  let (target, ledger) ← plain (generator.openFixture name)
  plain (Act.report (.generating target))
  fun world =>
    close generator target (build generator 0 target (Generator.startPlot world ledger))

/-! ## No check fails

  One lemma for each definition.  Those up to the tags need nothing of the settings. -/

variable {generator : Generator}

/-- A range that is not empty may be asked for. -/
theorem between_eq_plain {low high : UInt64} (h : low ≤ high) :
    between generator low high =
      plain (Making.draw (σ := σ) (Draw.between generator.patience low high)) := by
  rw [between, check_bind (range_eq_ok h)]

theorem pickTag_eq_plain (generator : Generator) :
    pickTag generator = plain (generator.pickTag (σ := σ)) := by
  refine bind_eq_plain rfl fun sample => ?_
  refine ite_eq_plain ?_ (mint_eq_plain _)
  refine bind_eq_plain rfl fun plot => ?_
  refine bind_eq_plain rfl fun choice => ?_
  cases choice with
  | none => exact mint_eq_plain _
  | some tag => rfl

/-- Tagging a file is plain, by induction on the tags that it still gets: each of them is drawn, and
    recorded, by a plain step. -/
theorem tagTimes_eq_plain (generator : Generator) (file : String) (count : Nat)
    (taken : List String) :
    tagTimes generator file count taken = plain (generator.tagTimes (σ := σ) file count taken) := by
  induction count generalizing taken with
  | zero => rfl
  | succ count ih =>
    have hpick : pickOtherTag generator taken = plain (generator.pickOtherTag (σ := σ) taken) := by
      refine retry_eq_plain ?_ _ _
      exact bind_eq_plain (pickTag_eq_plain generator) fun tag => rfl
    refine bind_eq_plain hpick fun tag => ?_
    refine bind_eq_plain rfl fun _ => ?_
    refine bind_eq_plain rfl fun _ => ?_
    exact bind_eq_plain rfl fun plot => ite_eq_plain rfl (ih (tag :: taken))

section Valid

variable (hvalid : generator.settings.fault? = none)

include hvalid

/-- The number of tags is from a range that the settings keep in order. -/
theorem tagFile_eq_plain (file : String) :
    tagFile generator file = plain (generator.tagFile (σ := σ) file) :=
  bind_eq_plain (between_eq_plain (Settings.bounds_of_valid hvalid).2) fun count =>
    tagTimes_eq_plain generator file count.toNat []

theorem plantFile_eq_plain (directory : String) :
    plantFile generator directory = plain (generator.plantFile (σ := σ) directory) := by
  refine bind_eq_plain (mint_eq_plain _) fun identifier => ?_
  refine bind_eq_plain (between_eq_plain UInt64.zero_le) fun length => ?_
  refine bind_eq_plain rfl fun payload => ?_
  refine bind_eq_plain rfl fun _ => ?_
  exact bind_eq_plain rfl fun _ => tagFile_eq_plain hvalid _

/-- A directory is filled by plain steps once its slots are: the bounds that the two counts are
    drawn from are in order in valid settings. -/
theorem fillWith_eq_plain (directory : String) (depth : Nat) {slot : Step (Plot σ) Unit}
    {slot' : Making σ Unit} (hslot : slot = plain slot') :
    fillWith generator directory depth slot = plain (generator.fillWith directory depth slot') := by
  refine bind_eq_plain (between_eq_plain (Settings.bounds_of_valid hvalid).1) fun slots => ?_
  refine bind_eq_plain (times_eq_plain hslot _) fun _ => ?_
  refine bind_eq_plain (between_eq_plain UInt64.zero_le) fun files => ?_
  exact bind_eq_plain (times_eq_plain (plantFile_eq_plain hvalid directory) _) fun _ => rfl

/-- **A tree that is grown from the top down by the depth reached is the one that is grown by the
    levels left.**  The depth is never greater than the greatest one, which is a word. -/
theorem build_eq_plain {depth levels : Nat} (h : depth + levels = generator.settings.depth.toNat)
    (directory : String) :
    build generator depth directory = plain (generator.fill (σ := σ) levels directory) := by
  -- by the levels that are left
  induction levels generalizing depth directory with
  | zero =>
    rw [build, Generator.fill, show generator.settings.depth.toNat = depth by omega]
    refine fillWith_eq_plain hvalid directory depth ?_
    refine bind_eq_plain (mint_eq_plain _) fun name => ?_
    rw [dif_neg (Nat.lt_irrefl depth)]
    rfl
  | succ levels ih =>
    have hdepth : depth + 1 < 2 ^ 64 := by
      have hword := generator.settings.depth.toNat_lt
      omega
    rw [build, Generator.fill, show generator.settings.depth.toNat - (levels + 1) = depth by omega]
    refine fillWith_eq_plain hvalid directory depth ?_
    refine bind_eq_plain (mint_eq_plain _) fun name => ?_
    rw [dif_pos (by omega)]
    refine bind_eq_plain rfl fun _ => ?_
    refine bind_eq_plain rfl fun _ => ?_
    rw [check_bind (word_eq_ok hdepth)]
    exact ih (by omega) _

/-- A call with every step checked is the plain call. -/
theorem generate_eq_plain (name : String) :
    generate generator name = plain (generator.generate (σ := σ) name) := by
  refine bind_eq_plain rfl fun opening => ?_
  refine bind_eq_plain rfl fun _ => ?_
  funext world
  rw [build_eq_plain hvalid (Nat.zero_add _), plain, plain, Generator.grow]
  cases generator.fill generator.settings.depth.toNat opening.1
    (Generator.startPlot world opening.2) with
  | ok _ plot => rfl
  | error stop plot => rfl

end Valid

end Checked

namespace Generator

variable {σ : Type} [WordSource σ] {generator : Generator}

/-- **A generator whose settings are not refused breaks nothing.**  From every source and disk and
    for every name, a call with every step checked does what the plain call does; so no check fails,
    and no number from an empty range is asked for. -/
theorem generate_without_breach (hvalid : generator.settings.fault? = none) (name : String)
    (world : World σ) :
    Checked.generate generator name world = Checked.unbroken (generator.generate name world) ∧
      (∀ breach after, Checked.generate generator name world ≠ .error (.inl breach) after) ∧
      ∀ after, generator.generate name world ≠ .error (.mishap .emptyRange) after := by
  have hplain := Checked.generate_eq_plain (σ := σ) hvalid name
  refine ⟨congrFun hplain world, ?_, fun after => generate_ne_emptyRange hvalid⟩
  intro breach after
  rw [hplain]
  exact Checked.plain_ne_breach _ _ _ _

/-- The little fixture is made with every step checked. -/
theorem little_without_breach : little.settings.fault? = none ∧
    ∃ summary after, little.generate "f" World.little = .ok summary after ∧
      Checked.generate little "f" World.little = .ok summary after ∧
      (∀ breach after, Checked.generate little "f" World.little ≠ .error (.inl breach) after) ∧
      ∀ after, little.generate "f" World.little ≠ .error (.mishap .emptyRange) after := by
  obtain ⟨after, hgenerate⟩ := little_generates
  have hchecked := generate_without_breach little_valid "f" World.little
  rw [hgenerate] at hchecked
  refine ⟨little_valid, _, after, hgenerate, hchecked.1, hchecked.2.1, ?_⟩
  rw [hgenerate]
  exact hchecked.2.2

end Generator

end Thicket
