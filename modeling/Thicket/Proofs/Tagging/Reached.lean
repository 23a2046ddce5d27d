/-
  The states in which files are tagged.

  A fixture begins with the counter zero and an empty pool.  From there on the counter goes up where
  an identifier is given, the pool grows where a file is tagged, and nothing else touches either
  (`Reached`, `stays_fill`).

  In all these states the tags in use are identifiers that were given before, and the pool knows of
  a tag only if it has one (`InOrder`, `Reached.inOrder`).  While a file is tagged the tags that it
  has were given before as well, so the next identifier is none of them (`InOrder.encode_not_mem`).

  1. **Order** — each thing that a tagging does keeps it: giving an identifier (`numbered`),
     picking a tag (`picked`), putting one to use (`useTag`).  The list of the file's tags is part
     of the invariant and grows with each of them.
  2. **Reached states** — one constructor for each event, and one for everything that touches
     neither the counter nor the pool.  So the source and the disk may be anything in a reached
     state: what is shown of such states does not depend on how the words came.
  3. **The growing** goes through reached states only, by the rules for contracts.
-/
import Thicket.Growth
import Thicket.Generator
import Thicket.Proofs.Sketch.Tree
import Thicket.Proofs.Tagging.Attempts

namespace Thicket

variable {σ α : Type}

/-! ## Identifiers and the pool

  The identifiers of a counter are those that were given before it. -/

/-- The next identifier was not given before, for no two counters have the same one. -/
theorem Codec.encode_not_mem_identifiers (codec : Codec) (counter : UInt64) :
    codec.encode counter ∉ codec.identifiers counter := by
  rw [Codec.mem_identifiers]
  rintro ⟨k, hk, heq⟩
  cases codec.encode_injective heq
  exact absurd hk (UInt64.lt_irrefl counter)

/-- Putting a tag to use makes no other tag usable. -/
theorem Pool.mem_order_insert {pool : Pool} {tag other : String}
    (h : other ∈ (pool.insert tag).2.order) : other = tag ∨ other ∈ pool.order := by
  rw [Pool.insert] at h
  split at h
  · exact Or.inr h
  · rcases Array.mem_push.1 h with hbefore | hlast
    · exact Or.inr hbefore
    · exact Or.inl hlast

/-! ## Steps that touch neither the counter nor the pool

  Most steps work on the disk, the ledger or the reports. -/

/-- However the step ends, the counter and the pool are what they were. -/
def Making.Untouched (step : Making σ α) : Prop :=
  ∀ plot, (stateLeft (step plot)).counter = plot.counter ∧ (stateLeft (step plot)).pool = plot.pool

namespace Making.Untouched

theorem onWorld (act : Act σ α) : Untouched (Making.onWorld act) := by
  intro plot
  rw [Making.onWorld]
  cases act plot.toWorld with
  | ok a world => exact ⟨rfl, rfl⟩
  | error stop world => exact ⟨rfl, rfl⟩

theorem onDisk (task : Task) (path : String) (change : Disk → Except Cause Disk) :
    Untouched (σ := σ) (Making.onDisk task path change) := by
  intro plot
  rw [Making.onDisk]
  cases change plot.disk with
  | ok disk => exact ⟨rfl, rfl⟩
  | error cause => exact ⟨rfl, rfl⟩

theorem record (file tag : String) : Untouched (σ := σ) (Making.record file tag) := by
  intro plot
  rw [Making.record]
  rcases plot.ledger.append plot.disk file tag with ⟨outcome, ledger, disk⟩
  cases outcome with
  | ok _ => exact ⟨rfl, rfl⟩
  | error failure => exact ⟨rfl, rfl⟩

/-- What depends on the counter and the pool only is kept. -/
theorem meets {step : Making σ α} (h : Untouched step) {kept : Plot σ → Prop}
    (hkept : ∀ plot after, after.counter = plot.counter → after.pool = plot.pool →
      kept plot → kept after) : Meets kept step (fun _ => kept) fun _ _ => True := by
  intro plot hplot
  have hfields := h plot
  split
  · rename_i a after hresult
    rw [hresult] at hfields
    exact hkept plot after hfields.1 hfields.2 hplot
  · trivial

end Making.Untouched

namespace Generator

/-! ## States in order

  The list of tags in use is an array, from which one is chosen by position. -/

/-- The tags in use and those of the file are identifiers that were given already. -/
structure InOrder (generator : Generator) (taken : List String) (plot : Plot σ) : Prop where
  sound : plot.pool.Sound
  used : ∀ tag ∈ plot.pool.order, tag ∈ generator.codec.identifiers plot.counter
  taken : ∀ tag ∈ taken, tag ∈ generator.codec.identifiers plot.counter

namespace InOrder

variable {generator : Generator} {taken : List String} {plot after : Plot σ} {tag : String}

theorem start (generator : Generator) (world : World σ) (ledger : Ledger) :
    generator.InOrder [] (startPlot world ledger) where
  sound := Pool.sound_empty
  used := by
    intro tag htag
    cases Array.not_mem_empty tag htag
  taken := nofun

/-- The next identifier is none of the file's tags. -/
theorem encode_not_mem (h : generator.InOrder taken plot) :
    generator.codec.encode plot.counter ∉ taken := by
  intro hmem
  exact generator.codec.encode_not_mem_identifiers plot.counter (h.taken _ hmem)

/-- Order is a matter of the counter and the pool only. -/
theorem of_fields (h : generator.InOrder taken plot) (hcounter : after.counter = plot.counter)
    (hpool : after.pool = plot.pool) : generator.InOrder taken after where
  sound := hpool ▸ h.sound
  used := by
    rw [hpool, hcounter]
    exact h.used
  taken := by
    rw [hcounter]
    exact h.taken

theorem of_subset {fewer : List String} (h : generator.InOrder taken plot)
    (hsubset : ∀ tag ∈ fewer, tag ∈ taken) : generator.InOrder fewer plot :=
  ⟨h.sound, h.used, fun tag htag => h.taken tag (hsubset tag htag)⟩

/-- A further tag of the file that was given already. -/
theorem cons (h : generator.InOrder taken plot)
    (htag : tag ∈ generator.codec.identifiers plot.counter) :
    generator.InOrder (tag :: taken) plot where
  sound := h.sound
  used := h.used
  taken := by
    intro other hother
    rcases List.mem_cons.1 hother with rfl | hbefore
    · exact htag
    · exact h.taken other hbefore

/-- Giving an identifier. -/
theorem numbered (h : generator.InOrder taken plot) (hleft : plot.counter + 1 ≠ 0)
    (hcounter : after.counter = plot.counter + 1) (hpool : after.pool = plot.pool) :
    generator.InOrder (generator.codec.encode plot.counter :: taken) after := by
  have hgiven : generator.codec.identifiers after.counter =
      generator.codec.identifiers plot.counter ++ [generator.codec.encode plot.counter] := by
    rw [hcounter, Codec.identifiers_succ hleft]
  have hafter : generator.InOrder taken after := by
    refine ⟨hpool ▸ h.sound, ?_, ?_⟩
    · intro tag htag
      rw [hgiven]
      exact List.mem_append_left _ (h.used tag (hpool ▸ htag))
    · intro tag htag
      rw [hgiven]
      exact List.mem_append_left _ (h.taken tag htag)
  refine hafter.cons ?_
  rw [hgiven]
  exact List.mem_append_right _ (List.mem_singleton_self _)

/-- Picking a tag. -/
theorem picked {sample : Binary64.Sample} (h : generator.InOrder taken plot)
    (hpool : after.pool = plot.pool) (houtcome : generator.Outcome plot sample tag after) :
    generator.InOrder (tag :: taken) after := by
  cases houtcome with
  | reused _ hused hcounter => exact (h.cons (h.used tag hused)).of_fields hcounter hpool
  | minted _ hleft htag hcounter =>
    subst htag
    exact h.numbered hleft hcounter hpool

/-- Putting one of the file's tags to use. -/
theorem useTag (h : generator.InOrder taken plot) (htag : tag ∈ taken) :
    generator.InOrder taken { plot with pool := (plot.pool.insert tag).2 } where
  sound := fun _ _ => h.sound.isEmpty_insert tag
  used := by
    intro other hother
    rcases Pool.mem_order_insert hother with rfl | hbefore
    · exact h.taken other htag
    · exact h.used other hbefore
  taken := h.taken

end InOrder

variable [WordSource σ]

/-! ## Tagging keeps order

  Contracts for the tagging, from a pick up to the whole file; only what holds at the end is of
  interest. -/

/-- A pick gives a tag that was given before, or is given now. -/
theorem meets_pickTag (generator : Generator) (taken : List String) :
    Meets (generator.InOrder (σ := σ) taken) generator.pickTag
      (fun tag => generator.InOrder (tag :: taken)) fun _ _ => True := by
  intro plot hplot
  split
  · rename_i tag after hpick
    obtain ⟨sample, source, -, hpool, -, houtcome⟩ := pickTag_cases hpick
    exact hplot.picked hpool houtcome
  · trivial

/-- Picks that are repeated leave the same order. -/
theorem meets_pickOtherTag (generator : Generator) (taken : List String) :
    Meets (generator.InOrder (σ := σ) taken) (generator.pickOtherTag taken)
      (fun tag => generator.InOrder (tag :: taken)) fun _ _ => True := by
  refine Meets.retry (fun _ _ => trivial) ((generator.meets_pickTag taken).bind fun tag => ?_) _
  refine meets_pure ?_
  intro plot hplot
  by_cases htag : taken.contains tag = true
  · rw [if_pos htag]
    exact hplot.of_subset fun other hother => List.mem_cons_of_mem tag hother
  · rw [if_neg htag]
    exact hplot

/-- Each tag that is put to use joins those of the file. -/
theorem meets_tagTimes (generator : Generator) (file : String) (count : Nat)
    (taken : List String) :
    Meets (generator.InOrder (σ := σ) taken) (generator.tagTimes file count taken)
      (fun _ => generator.InOrder []) fun _ _ => True := by
  -- by the tags that are left; each one joins those that the file has
  induction count generalizing taken with
  | zero => exact meets_pure fun plot hplot => hplot.of_subset nofun
  | succ count ih =>
    refine (generator.meets_pickOtherTag taken).bind fun tag => ?_
    have huse : Meets (generator.InOrder (σ := σ) (tag :: taken)) (Making.useTag tag)
        (fun _ => generator.InOrder (tag :: taken)) fun _ _ => True :=
      meets_modify fun plot hplot => hplot.useTag List.mem_cons_self
    have hrecord : Meets (generator.InOrder (σ := σ) (tag :: taken)) (Making.record file tag)
        (fun _ => generator.InOrder (tag :: taken)) fun _ _ => True :=
      (Making.Untouched.record file tag).meets fun _ _ hcounter hpool hplot =>
        hplot.of_fields hcounter hpool
    refine huse.bind fun _ => hrecord.bind fun _ => meets_get fun seen => ?_
    apply meets_ite
    · exact meets_pure fun plot hplot => hplot.1.of_subset nofun
    · exact (ih (tag :: taken)).of_pre fun plot hplot => hplot.1

theorem meets_tagFile (generator : Generator) (file : String) :
    Meets (generator.InOrder (σ := σ) []) (generator.tagFile file)
      (fun _ => generator.InOrder []) fun _ _ => True :=
  ((Making.Untouched.onWorld _).meets fun _ _ hcounter hpool hplot =>
    hplot.of_fields hcounter hpool).bind fun _ => generator.meets_tagTimes file _ []

/-! ## Reached states

  The order of a reached state is that of a file without tags: between two files there are none
  to count. -/

/-- The states that lie between the steps of the making of a fixture, as far as the counter and the
    pool go: the rest of the state may be anything, the source above all. -/
inductive Reached (generator : Generator) : Plot σ → Prop where
  /-- The growing begins. -/
  | start (world : World σ) (ledger : Ledger) : Reached generator (startPlot world ledger)
  /-- An identifier was given. -/
  | numbered {plot after : Plot σ} {identifier : String} (h : Reached generator plot)
      (hnext : Making.nextIdentifier generator.codec plot = .ok identifier after) :
      Reached generator after
  /-- A file was tagged. -/
  | tagged {plot after : Plot σ} {file : String} (h : Reached generator plot)
      (htag : generator.tagFile file plot = .ok () after) : Reached generator after
  /-- Something happened that touches neither the counter nor the pool. -/
  | elsewhere {plot after : Plot σ} (h : Reached generator plot)
      (hcounter : after.counter = plot.counter) (hpool : after.pool = plot.pool) :
      Reached generator after

/-- By induction on how the state was reached. -/
theorem Reached.inOrder {generator : Generator} {plot : Plot σ} (h : generator.Reached plot) :
    generator.InOrder [] plot := by
  induction h with
  | start world ledger => exact .start generator world ledger
  | numbered _ hnext ih =>
    obtain ⟨hleft, -, rfl⟩ := nextIdentifier_eq_ok hnext
    refine InOrder.of_subset (ih.numbered hleft ?_ ?_) ?_
    · rfl
    · rfl
    · exact fun tag htag => nomatch htag
  | @tagged plot after file _ htag ih =>
    have hafter := generator.meets_tagFile file plot ih
    rw [htag] at hafter
    exact hafter
  | elsewhere _ hcounter hpool ih => exact ih.of_fields hcounter hpool

/-! ## The growing goes through reached states

  So what is shown of tagging in reached states holds wherever a fixture comes to tag a file. -/

section Growing

variable (generator : Generator)

/-- Begun in a reached state, the step comes to its end in one. -/
abbrev Stays (step : Making σ α) : Prop :=
  Meets generator.Reached step (fun _ => generator.Reached) fun _ _ => True

variable {generator}

/-- A step that touches neither is one of the constructors. -/
theorem stays_of_untouched {step : Making σ α} (h : Making.Untouched step) :
    generator.Stays step :=
  h.meets fun _ _ hcounter hpool hplot => .elsewhere hplot hcounter hpool

theorem stays_nextIdentifier :
    generator.Stays (σ := σ) (Making.nextIdentifier generator.codec) := by
  intro plot hplot
  split
  · rename_i identifier after hnext
    exact .numbered hplot hnext
  · trivial

theorem stays_tagFile (file : String) : generator.Stays (σ := σ) (generator.tagFile file) := by
  intro plot hplot
  split
  · rename_i after htag
    exact .tagged hplot htag
  · trivial

/-- Repeating keeps to reached states, by the repetitions that are left. -/
theorem stays_times {step : Making σ Unit} (h : generator.Stays step) (count : Nat) :
    generator.Stays (Making.times count step) := by
  induction count with
  | zero => exact meets_pure fun _ hplot => hplot
  | succ count ih => exact h.bind fun _ => ih

theorem stays_plantFile (directory : String) :
    generator.Stays (σ := σ) (generator.plantFile directory) := by
  refine stays_nextIdentifier.bind fun identifier => ?_
  refine (stays_of_untouched (.onWorld _)).bind fun length => ?_
  refine (stays_of_untouched (.onWorld _)).bind fun payload => ?_
  refine (stays_of_untouched (.onDisk _ _ _)).bind fun _ => ?_
  refine (stays_of_untouched fun _ => ⟨rfl, rfl⟩).bind fun _ => ?_
  exact stays_tagFile _

theorem stays_fillWith (directory : String) (depth : Nat) {slot : Making σ Unit}
    (hslot : generator.Stays slot) : generator.Stays (generator.fillWith directory depth slot) := by
  refine (stays_of_untouched (.onWorld _)).bind fun slots => ?_
  refine (stays_times hslot _).bind fun _ => ?_
  refine (stays_of_untouched (.onWorld _)).bind fun files => ?_
  exact (stays_times (stays_plantFile directory) _).bind fun _ => stays_of_untouched (.onWorld _)

/-- **Growing a tree leads from reached states to reached states.** -/
theorem stays_fill (levels : Nat) (directory : String) :
    generator.Stays (σ := σ) (generator.fill levels directory) := by
  induction levels generalizing directory with
  | zero => exact stays_fillWith _ _ (stays_nextIdentifier.bind fun _ => meets_pure fun _ h => h)
  | succ levels ih =>
    refine stays_fillWith _ _ (stays_nextIdentifier.bind fun name => ?_)
    refine (stays_of_untouched (.onDisk _ _ _)).bind fun _ => ?_
    exact (stays_of_untouched fun _ => ⟨rfl, rfl⟩).bind fun _ => ih _

end Growing

end Generator

end Thicket
