/-
  The tagging of a file comes to an end.

  Nothing bounds how often a tag is drawn again, so this is not a matter of counting.  It takes two
  things: that the source answers whatever number it is asked for (`Draw.Answers`), and that the
  redrawing is left for each tag (`Leaves`).  At a saturated density nothing is ever drawn again; at
  any other density it is enough that samples which are not below the density keep coming
  (`SampleAhead`).

  1. **Tagging without patience** — what comes to an end is the file's tags one after the other,
     each behind the attempts that it took (`Tags`).  The program does the same under all patience
     that is enough (`Tags.settles`).
  2. **Why the redrawing is left** — a sample that is not below the density asks for a new
     identifier, and a new identifier is none of the file's tags (`leaves_of_sampleAhead`).
  3. **A file whose first tag is drawn again** — a source of five words in turn, from which a file
     with two tags first draws the one again that it has.

  Neither of the two things follows from the program.  There are sources whose words are rejected
  for ever and sources whose samples are all below the density, and with those the program repeats
  a draw for ever.
-/
import Thicket.Proofs.Fixture.Density
import Thicket.Proofs.Tagging.Redraws

namespace Thicket

/-! ## Valid densities

  A density that is not refused is a number, so comparing it is comparing multiples of the
  smallest unit. -/

theorem Binary64.exceedsSample_iff {x : Binary64} (h : x.isNaN = false) (sample : Sample) :
    x.exceedsSample sample = true ↔ (sample.units : Int) < x.units := by
  rw [exceedsSample, h, Bool.not_false, Bool.true_and, decide_eq_true_iff]

/-- Settings without a fault have a number for their density. -/
theorem Settings.isNaN_of_valid {settings : Settings} (h : settings.fault? = none) :
    settings.tagDensity.isNaN = false := by
  have hprobability : settings.tagDensity.isProbability = true := by
    unfold Settings.fault? at h
    split at h
    · cases h
    · split at h
      · cases h
      · rename_i hdensity
        simpa using hdensity
  simp only [Binary64.isProbability, Bool.and_eq_true, Bool.not_eq_true'] at hprobability
  exact hprobability.1.1

/-- A density is saturated from a certain number of units on. -/
theorem Settings.isSaturated_iff {settings : Settings} (h : settings.tagDensity.isNaN = false) :
    settings.isSaturated = true ↔ saturatedDensity.units ≤ settings.tagDensity.units := by
  have hnumber : saturatedDensity.isNaN = false := by decide +kernel
  rw [Settings.isSaturated, Binary64.atLeast, h, hnumber, Bool.not_false, Bool.true_and,
    Bool.true_and, decide_eq_true_iff]

variable {σ : Type}

namespace Generator

variable [WordSource σ] {generator : Generator} {file tag : String} {taken : List String}
  {start plot mid after : Plot σ} {samples : List Binary64.Sample} {sample : Binary64.Sample}

/-! ## Tagging without patience

  There are five ways for the tagging to go on or to end; the last two are those behind a tag
  that was recorded. -/

/-- A file with these tags is given so many more: one after the other, each behind the attempts that
    gave tags which the file has, until the file has enough, a tag cannot be recorded, or no
    identifier is left for it. -/
inductive Tags (generator : Generator) (file : String) :
    Nat → List String → Plot σ → EStateM.Result Stop (Plot σ) Unit → Prop where
  | done (taken : List String) (plot : Plot σ) : Tags generator file 0 taken plot (.ok () plot)
  | exhausted {left : Nat} {taken : List String} {plot mid : Plot σ}
      {samples : List Binary64.Sample} {source : σ}
      (hrounds : generator.Rounds (· ∈ taken) plot samples mid)
      (hexhausted : generator.Exhausted mid source) :
      Tags generator file (left + 1) taken plot (.error (.mishap .stalled) { mid with source })
  | unrecorded {left : Nat} {taken : List String} {plot picked after : Plot σ} {tag : String}
      {stop : Stop} (hpicks : generator.Picks taken plot tag picked)
      (hrecord : Making.record file tag { picked with pool := (picked.pool.insert tag).2 } =
        .error stop after) :
      Tags generator file (left + 1) taken plot (.error stop after)
  | sated {left : Nat} {taken : List String} {plot after : Plot σ} {tag : String}
      (hgains : generator.Gains file taken plot tag after)
      (hsated : generator.IsSated after = true) :
      Tags generator file (left + 1) taken plot (.ok () after)
  | next {left : Nat} {taken : List String} {plot after : Plot σ} {tag : String}
      {result : EStateM.Result Stop (Plot σ) Unit}
      (hgains : generator.Gains file taken plot tag after)
      (hon : generator.IsSated after = false)
      (rest : Tags generator file left (tag :: taken) after result) :
      Tags generator file (left + 1) taken plot result

/-- What `tagTimes` does with a tag that was drawn. -/
def enterTag (generator : Generator) (file : String) (left : Nat) (taken : List String)
    (tag : String) : Making σ Unit := do
  Making.useTag tag
  Making.record file tag
  let plot ← get
  if generator.IsSated plot then pure () else generator.tagTimes file left (tag :: taken)

theorem tagTimes_succ (generator : Generator) (file : String) (left : Nat) (taken : List String) :
    generator.tagTimes (σ := σ) file (left + 1) taken =
      generator.pickOtherTag taken >>= generator.enterTag file left taken :=
  rfl

/-- A tag that is recorded is followed by the next one, unless the file is sated. -/
theorem run_enterTag_of_ok {left : Nat} {picked : Plot σ}
    (hrecord : Making.record file tag { picked with pool := (picked.pool.insert tag).2 } =
      .ok () after) :
    generator.enterTag file left taken tag picked =
      if generator.IsSated after then .ok () after
      else generator.tagTimes file left (tag :: taken) after := by
  rw [enterTag, Making.useTag, run_bind_of_ok (run_modify _), run_bind_of_ok hrecord,
    run_bind_of_ok run_get]
  split
  · rfl
  · rfl

theorem run_enterTag_of_error {left : Nat} {picked : Plot σ} {stop : Stop}
    (hrecord : Making.record file tag { picked with pool := (picked.pool.insert tag).2 } =
      .error stop after) :
    generator.enterTag file left taken tag picked = .error stop after := by
  rw [enterTag, Making.useTag, run_bind_of_ok (run_modify _), run_bind_of_error hrecord]

/-- What is picked with some patience is picked with all greater one. -/
theorem Picks.settles (h : generator.Picks taken plot tag after) :
    Settles (fun patience => (generator.withPatience patience).pickOtherTag taken) plot
      (.ok tag after) := by
  obtain ⟨patience, hpick⟩ := h
  exact (lasting_pickOtherTag generator taken).settles_of_ok hpick

/-- The program does the same under all patience that is enough. -/
theorem Tags.settles {left : Nat} {result : EStateM.Result Stop (Plot σ) Unit}
    (h : generator.Tags file left taken plot result) :
    Settles (fun patience => (generator.withPatience patience).tagTimes file left taken) plot
      result := by
  induction h with
  | done taken plot => exact ⟨0, fun _ _ => rfl⟩
  | exhausted hrounds hexhausted =>
    simp only [tagTimes_succ]
    exact (hrounds.settles_of_exhausted hexhausted).bind_error _
  | unrecorded hpicks hrecord =>
    simp only [tagTimes_succ]
    exact hpicks.settles.bind ⟨0, fun _ _ => run_enterTag_of_error hrecord⟩
  | sated hgains hsated =>
    obtain ⟨picked, hpicks, hrecord⟩ := hgains
    simp only [tagTimes_succ]
    refine hpicks.settles.bind ⟨0, fun patience _ => ?_⟩
    exact (run_enterTag_of_ok hrecord).trans (if_pos hsated)
  | next hgains hon _ ih =>
    obtain ⟨picked, hpicks, hrecord⟩ := hgains
    obtain ⟨enough, hrest⟩ := ih
    simp only [tagTimes_succ]
    refine hpicks.settles.bind ⟨enough, fun patience hpatience => ?_⟩
    rw [← hrest patience hpatience]
    exact (run_enterTag_of_ok hrecord).trans (if_neg (ne_true_of_eq_false hon))

/-- The tagging of the file comes to an end that owes nothing to a lack of patience, and the program
    comes to the same one under all patience that is enough. -/
def Ends (generator : Generator) (file : String) (start : Plot σ) : Prop :=
  ∃ patience count source result,
    Draw.between patience generator.settings.minTags generator.settings.maxTags start.source =
      .ok count source ∧
    generator.Tags file count.toNat [] { start with source } result ∧
    Settles (fun patience => (generator.withPatience patience).tagFile file) start result

/-! ## Why the redrawing is left

  The attempts up to that sample may be cut short by another tag; either way the redrawing is
  left. -/

/-- After some attempts that gave the file's tags comes one that gives another tag, or there is none
    to give. -/
def Leaves (generator : Generator) (taken : List String) (plot : Plot σ) : Prop :=
  ∃ samples mid, generator.Rounds (· ∈ taken) plot samples mid ∧
    ((∃ sample tag after, generator.Attempt mid sample tag after ∧ tag ∉ taken) ∨
      ∃ source, generator.Exhausted mid source)

/-- If attempt follows upon attempt, one of them takes a sample that is not below the density. -/
def SampleAhead (generator : Generator) (plot : Plot σ) : Prop :=
  ∃ samples mid sample source, generator.Rounds (fun _ => True) plot samples mid ∧
    Draw.unit mid.source = .ok sample source ∧
    generator.settings.tagDensity.units ≤ sample.units

/-- What is ahead after an attempt was ahead before it. -/
theorem SampleAhead.of_attempt {next : Plot σ} (attempt : generator.Attempt plot sample tag next)
    (h : generator.SampleAhead next) : generator.SampleAhead plot := by
  obtain ⟨samples, mid, last, source, hrounds, hunit, habove⟩ := h
  exact ⟨sample :: samples, mid, last, source, .more attempt trivial hrounds, hunit, habove⟩

/-- Any source gives a sample, for a sample is made of words. -/
theorem exists_unit (source : σ) : ∃ sample after, Draw.unit source = .ok sample after :=
  ⟨_, _, rfl⟩

/-- Where the source answers, an attempt gives a tag or there is none to give. -/
theorem exists_attempt (generator : Generator) {source : σ} (hanswers : Draw.Answers plot.source)
    (hunit : Draw.unit plot.source = .ok sample source) :
    (∃ tag after, generator.Attempt plot sample tag after) ∨
      ∃ source, generator.Exhausted plot source := by
  by_cases hasked : generator.AsksNew plot sample
  · by_cases hlast : plot.counter + 1 = 0
    · exact Or.inr ⟨source, sample, hunit, hasked, hlast⟩
    · exact Or.inl ⟨_, _, .of_asksNew hunit hasked hlast⟩
  · obtain ⟨habove, hsome⟩ := not_or.1 hasked
    obtain ⟨patience, choice, final, hchoose⟩ :=
      (hanswers.of_reaches (Draw.onward_unit.reaches hunit)).choose plot.pool.order
    have hkind := Draw.gives_choose (σ := σ) patience plot.pool.order source
    rw [hchoose] at hkind
    cases choice with
    | some tag =>
      have hbelow := Bool.eq_true_of_not_eq_false habove
      exact Or.inl ⟨tag, _, .of_choice hunit hbelow hchoose⟩
    | none => exact absurd hkind hsome

/-- A file without tags leaves the redrawing with its first attempt. -/
theorem leaves_nil (hanswers : Draw.Answers plot.source) : generator.Leaves [] plot := by
  obtain ⟨sample, source, hunit⟩ := exists_unit plot.source
  refine ⟨[], plot, .none plot, ?_⟩
  rcases exists_attempt generator hanswers hunit with ⟨tag, after, attempt⟩ | hnone
  · exact Or.inl ⟨sample, tag, after, attempt, List.not_mem_nil⟩
  · exact Or.inr hnone

/-- The redrawing is left at the latest at the first sample that is not below the density. -/
theorem leaves_of_sampleAhead (hnumber : generator.settings.tagDensity.isNaN = false)
    (hplot : generator.InOrder taken plot) (hanswers : Draw.Answers plot.source)
    (hahead : generator.SampleAhead plot) : generator.Leaves taken plot := by
  obtain ⟨samples, mid, sample, source, hrounds, hunit, habove⟩ := hahead
  -- by the attempts up to that sample; if one of them gives another tag, it is left there
  induction hrounds with
  | none plot =>
    refine ⟨[], plot, .none plot, ?_⟩
    rcases exists_attempt generator hanswers hunit with ⟨tag, after, attempt⟩ | hnone
    · refine Or.inl ⟨sample, tag, after, attempt, ?_⟩
      intro htag
      have hbelow := (Binary64.exceedsSample_iff hnumber sample).1 (attempt.of_mem hplot htag).1
      omega
    · exact Or.inr hnone
  | @more plot next last first tag samples attempt _ rest ih =>
    by_cases htag : tag ∈ taken
    · obtain ⟨-, hreaches, -⟩ := attempt.outcome
      have hnext := (attempt.inOrder hplot).of_subset fun _ => List.mem_cons_of_mem tag
      obtain ⟨samples', mid', hrounds', hleft⟩ := ih hnext (hanswers.of_reaches hreaches) hunit
      exact ⟨first :: samples', mid', .more attempt htag hrounds', hleft⟩
    · exact ⟨[], plot, .none plot, Or.inl ⟨first, tag, next, attempt, htag⟩⟩

/-- If the redrawing is left for every tag, the tagging comes to an end. -/
theorem exists_tags
    (hleaves : ∀ left taken plot, generator.Comes file start (left + 1) taken plot →
      generator.Leaves taken plot) (left : Nat) (taken : List String) (plot : Plot σ)
    (hcomes : generator.Comes file start left taken plot) :
    ∃ result, generator.Tags file left taken plot result := by
  induction left generalizing taken plot with
  | zero => exact ⟨_, .done taken plot⟩
  | succ left ih =>
    obtain ⟨samples, mid, hrounds, ⟨sample, tag, picked, attempt, htag⟩ | ⟨source, hexhausted⟩⟩ :=
      hleaves left taken plot hcomes
    · have hpicks := picks_iff.2 ⟨samples, mid, sample, hrounds, attempt, htag⟩
      cases hrecord : Making.record file tag
          { picked with pool := (picked.pool.insert tag).2 } with
      | error stop after => exact ⟨_, .unrecorded hpicks hrecord⟩
      | ok _ after =>
        have hgains : generator.Gains file taken plot tag after := ⟨picked, hpicks, hrecord⟩
        cases hsated : generator.IsSated after with
        | true => exact ⟨_, .sated hgains hsated⟩
        | false =>
          obtain ⟨result, rest⟩ := ih (tag :: taken) after (.next hcomes hgains hsated)
          exact ⟨result, .next hgains hsated rest⟩
    · exact ⟨_, .exhausted hrounds hexhausted⟩

/-- The tagging of a file ends if the redrawing is left for each of its tags. -/
theorem ends_of_leaves (hvalid : generator.settings.fault? = none)
    (hanswers : Draw.Answers start.source)
    (hleaves : ∀ left taken plot, generator.Comes file start (left + 1) taken plot →
      generator.Leaves taken plot) : generator.Ends file start := by
  obtain ⟨patience, count, source, hcount⟩ :=
    hanswers.between (Settings.bounds_of_valid hvalid).2
  obtain ⟨result, htags⟩ := exists_tags hleaves _ _ _ (.first hcount)
  refine ⟨patience, count, source, result, hcount, htags, ?_⟩
  have hdraw : Settles (fun patience => Making.draw (Draw.between patience
      generator.settings.minTags generator.settings.maxTags)) start
      (.ok count { start with source }) := by
    obtain ⟨enough, hsettled⟩ := (Draw.lasting_between _ _).settles_of_ok hcount
    exact ⟨enough, fun patience hpatience => Making.run_draw_of_ok (hsettled patience hpatience)⟩
  exact hdraw.bind htags.settles

/-- **Redrawing and its end.**  Whatever reached state the tagging of a file begins in, whenever the
    file comes to a tag, what the program draws is what repeated attempts give.

    - An attempt that is repeated took a sample strictly below the density and gave no identifier.
      The redrawing is left at the latest at the first sample that is not below the density, and a
      new identifier is never thrown away.  At a saturated density no attempt is ever repeated.
    - Every sample is below the density one, and that density is saturated.
    - Let the source answer what is asked of it.  Then the tagging ends if the density is saturated,
      and it ends if samples that are not below the density keep coming. -/
theorem redrawing_ends (hvalid : generator.settings.fault? = none)
    (hstart : generator.Reached start) (file : String) :
    (∀ left taken plot, generator.Comes file start (left + 1) taken plot →
      (∀ tag after, generator.Picks taken plot tag after ↔
        ∃ samples mid sample, generator.Rounds (· ∈ taken) plot samples mid ∧
          generator.Attempt mid sample tag after ∧ tag ∉ taken) ∧
      ∀ samples mid, generator.Rounds (· ∈ taken) plot samples mid →
        (∀ sample ∈ samples, (sample.units : Int) < generator.settings.tagDensity.units) ∧
        mid.counter = plot.counter ∧
        (∀ sample tag after, generator.Attempt mid sample tag after →
          generator.settings.tagDensity.units ≤ sample.units ∨ after.counter ≠ mid.counter →
          tag ∉ taken) ∧
        (saturatedDensity.units ≤ generator.settings.tagDensity.units → samples = [])) ∧
    (generator.settings.tagDensity = Binary64.ofDecimal false 1 0 →
      saturatedDensity.units ≤ generator.settings.tagDensity.units ∧
      ∀ sample : Binary64.Sample, (sample.units : Int) < generator.settings.tagDensity.units) ∧
    (Draw.Answers start.source →
      saturatedDensity.units ≤ generator.settings.tagDensity.units ∨
        (∀ left taken plot, generator.Comes file start (left + 1) taken plot →
          generator.SampleAhead plot) →
      generator.Ends file start) := by
  have hnumber := Settings.isNaN_of_valid hvalid
  have hnone : saturatedDensity.units ≤ generator.settings.tagDensity.units →
      ∀ left taken plot, generator.Comes file start left taken plot → taken = [] := by
    intro hsaturated left taken plot hcomes
    exact hcomes.taken_eq_nil hstart ((Settings.isSaturated_iff hnumber).2 hsaturated)
  refine ⟨?_, ?_, ?_⟩
  · intro left taken plot hcomes
    refine ⟨fun tag after => picks_iff, ?_⟩
    intro samples mid hrounds
    have hkept := hrounds.kept (hcomes.inOrder hstart)
    refine ⟨?_, hkept.counter, ?_, ?_⟩
    · intro sample hsample
      exact (Binary64.exceedsSample_iff hnumber sample).1 (hkept.below sample hsample)
    · intro sample tag after attempt hnew htag
      -- an attempt that gives a tag of the file had a sample below the density and minted nothing
      obtain ⟨hbelow, hcounter⟩ := attempt.of_mem hkept.inOrder htag
      have hless := (Binary64.exceedsSample_iff hnumber sample).1 hbelow
      rcases hnew with habove | hminted
      · omega
      · exact hminted hcounter
    · intro hsaturated
      cases hnone hsaturated _ _ _ hcomes
      exact hrounds.eq_nil
  · intro hone
    rw [hone]
    constructor
    · decide +kernel
    · intro sample
      exact (Binary64.exceedsSample_iff (by decide +kernel) sample).1
        (Binary64.exceedsSample_of_unitsPerOne_le (by decide +kernel) (by decide +kernel) sample)
  · intro hanswers hcase
    refine ends_of_leaves hvalid hanswers ?_
    intro left taken plot hcomes
    -- the source still answers wherever the tagging has led it
    have hlater := hanswers.of_reaches (hcomes.reaches hstart)
    rcases hcase with hsaturated | hahead
    · cases hnone hsaturated _ _ _ hcomes
      exact leaves_nil hlater
    · exact leaves_of_sampleAhead hnumber (hcomes.inOrder hstart) hlater
        (hahead left taken plot hcomes)

end Generator

/-! ## A file whose first tag is drawn again

  With the words that come in turn every number can be drawn and a sample above a half is never
  far. -/

/-- A source that gives five words in turn: two that every range accepts, and three that are above
    the middle. -/
structure Wheel where
  position : Fin 5
deriving DecidableEq

instance : WordSource Wheel where
  next wheel :=
    (if wheel.position < 2 then 0 else 0xa0000000, ⟨wheel.position + 1⟩)

namespace Wheel
open WordSource Draw

/-- Turning on, the wheel comes to its first position from every other one. -/
theorem reaches_zero (wheel : Wheel) : Reaches wheel ⟨0⟩ := by
  have h4 : Reaches (⟨4⟩ : Wheel) ⟨0⟩ := Relation.ReflTransGen.single rfl
  have h3 : Reaches (⟨3⟩ : Wheel) ⟨0⟩ := h4.head rfl
  have h2 : Reaches (⟨2⟩ : Wheel) ⟨0⟩ := h3.head rfl
  have h1 : Reaches (⟨1⟩ : Wheel) ⟨0⟩ := h2.head rfl
  exact match wheel with
    | ⟨0⟩ => Relation.ReflTransGen.refl
    | ⟨1⟩ => h1
    | ⟨2⟩ => h2
    | ⟨3⟩ => h3
    | ⟨4⟩ => h4

/-- Zero is accepted for every range, as a word and, twice in a row, as a double word. -/
theorem answers (wheel : Wheel) : Answers wheel := by
  intro later _ range hrange
  constructor
  · have haccepted : 0 * range % 2 ^ 32 ≤ zone 32 range := by
      rw [Nat.zero_mul]
      exact Nat.zero_le _
    obtain ⟨a, after, -, enough, hsettled⟩ :=
      below32_settles_of_accepted hrange later.reaches_zero haccepted
    exact ⟨enough, a, after, hsettled enough (Nat.le_refl enough)⟩
  · have h0 : ∃ patience a after, below64 patience range hrange (⟨0⟩ : Wheel) = .ok a after := by
      have hattempt : (do
          let v ← doubleWord
          pure (accept? 64 range v.toNat v.toNat_lt hrange) : Draw Wheel (Option (Fin range))) ⟨0⟩ =
            .ok (accept? 64 range 0 (by decide) hrange) ⟨2⟩ := rfl
      have hsome : accept? 64 range 0 (by decide) hrange = some ⟨0, hrange⟩ := by
        simp [accept?]
      rw [hsome] at hattempt
      exact ⟨1, _, _, run_retry_of_some hattempt 0⟩
    -- two words further each time, so every position leads to the two zeros
    have hword3 : doubleWord (⟨3⟩ : Wheel) = .ok 0xa0000000a0000000 ⟨0⟩ := rfl
    have hword1 : doubleWord (⟨1⟩ : Wheel) = .ok 0xa000000000000000 ⟨3⟩ := rfl
    have hword4 : doubleWord (⟨4⟩ : Wheel) = .ok 0xa0000000 ⟨1⟩ := rfl
    have hword2 : doubleWord (⟨2⟩ : Wheel) = .ok 0xa0000000a0000000 ⟨4⟩ := rfl
    have h3 := exists_below64_of_next hword3 h0
    have h1 := exists_below64_of_next hword1 h3
    have h4 := exists_below64_of_next hword4 h1
    have h2 := exists_below64_of_next hword2 h4
    exact match later with
      | ⟨0⟩ => h0
      | ⟨1⟩ => h1
      | ⟨2⟩ => h2
      | ⟨3⟩ => h3
      | ⟨4⟩ => h4

end Wheel

/-- A generator that gives a file two tags at most, half of them new. -/
def Generator.pairing : Generator :=
  { little with
    settings := {
      depth := 1
      branchFactor := 1
      maxFiles := 1
      maxFileSize := 0
      maxTags := 2
      tagDensity := Binary64.ofDecimal false 5 (-1)
      untaggedFilesDisallowed := true
      root := "/" } }

namespace Generator

/-- The growing begins with the wheel in position one, and with an empty ledger. -/
def pairingStart : Plot Wheel :=
  startPlot ⟨⟨1⟩, Disk.empty, #[]⟩
    { path := "/f.tag", sink := .lost, buffer := .empty, entries := 0 }

theorem pairing_valid : pairing.settings.fault? = none := by decide +kernel

/-- From the positions one to three the wheel gives a sample above a half. -/
theorem pairing_sampleAhead_of_source {plot : Plot Wheel}
    (h : plot.source = ⟨1⟩ ∨ plot.source = ⟨2⟩ ∨ plot.source = ⟨3⟩) : pairing.SampleAhead plot := by
  refine ⟨[], plot, ?_⟩
  rcases h with h | h | h
  · exact ⟨_, _, .none plot, by rw [h]; rfl, by decide +kernel⟩
  · exact ⟨_, _, .none plot, by rw [h]; rfl, by decide +kernel⟩
  · exact ⟨_, _, .none plot, by rw [h]; rfl, by decide +kernel⟩

/-- From the other two it gives a lesser one, and one of those three comes next. -/
theorem pairing_attempt {plot : Plot Wheel} (hcounter : plot.counter.toNat ≤ 1)
    (hsize : plot.pool.size ≤ 1) (h : plot.source = ⟨0⟩ ∨ plot.source = ⟨4⟩) :
    ∃ sample tag next, pairing.Attempt plot sample tag next ∧
      (next.source = ⟨1⟩ ∨ next.source = ⟨2⟩) ∧
      (plot.pool.order = #[] ∨ plot.pool.order = #[tag]) := by
  have hleft : plot.counter + 1 ≠ 0 := by
    intro hlast
    have hzero := congrArg UInt64.toNat hlast
    rw [UInt64.toNat_add, UInt64.toNat_one, UInt64.toNat_zero] at hzero
    omega
  obtain ⟨sample, source, hunit, hbelow, hnext, patience, last, hindex, hlast⟩ :
      ∃ sample source, Draw.unit plot.source = .ok sample source ∧
        pairing.settings.tagDensity.exceedsSample sample = true ∧
        (source = ⟨1⟩ ∨ source = ⟨2⟩) ∧
        ∃ patience last, Draw.index patience 1 Nat.one_pos source = .ok 0 last ∧
          (last = ⟨1⟩ ∨ last = ⟨2⟩) := by
    rcases h with h | h
    · -- the wheel stands at its first word or at its fifth; each of the two is tried out
      refine ⟨0, ⟨2⟩, by rw [h]; rfl, by decide +kernel, Or.inr rfl, 4, ⟨1⟩, ?_, Or.inl rfl⟩
      exact eq_ok_iff.2 ⟨by decide +kernel, by decide +kernel⟩
    · refine ⟨0xa0000, ⟨1⟩, by rw [h]; rfl, by decide +kernel, Or.inl rfl, 1, ⟨2⟩, ?_, Or.inr rfl⟩
      exact eq_ok_iff.2 ⟨by decide +kernel, by decide +kernel⟩
  by_cases hempty : plot.pool.order = #[]
  · exact ⟨sample, _, _, .of_asksNew hunit (Or.inr hempty) hleft, hnext, Or.inl hempty⟩
  · have hone : plot.pool.order.size = 1 := by
      have hsome : plot.pool.order.size ≠ 0 := fun hzero =>
        hempty (Array.eq_empty_of_size_eq_zero hzero)
      have hle : plot.pool.order.size ≤ 1 := hsize
      omega
    obtain ⟨tag, htag⟩ := Array.size_eq_one_iff.1 hone
    have hchoose : Draw.choose patience plot.pool.order source = .ok (some tag) last := by
      rw [htag]
      exact Draw.choose_singleton hindex
    exact ⟨sample, tag, _, .of_choice hunit hbelow hchoose, hlast, Or.inr htag⟩

/-- Wherever the wheel stands, a sample above a half comes next or next but one. -/
theorem pairing_sampleAhead {plot : Plot Wheel} (hcounter : plot.counter.toNat ≤ 1)
    (hsize : plot.pool.size ≤ 1) : pairing.SampleAhead plot := by
  have hlow : plot.source = ⟨0⟩ ∨ plot.source = ⟨4⟩ → pairing.SampleAhead plot := by
    intro h
    obtain ⟨sample, tag, next, attempt, hnext, -⟩ := pairing_attempt hcounter hsize h
    exact .of_attempt attempt (pairing_sampleAhead_of_source (hnext.imp_right Or.inl))
  exact match hsource : plot.source with
    | ⟨0⟩ => hlow (Or.inl hsource)
    | ⟨1⟩ => pairing_sampleAhead_of_source (Or.inl hsource)
    | ⟨2⟩ => pairing_sampleAhead_of_source (Or.inr (Or.inl hsource))
    | ⟨3⟩ => pairing_sampleAhead_of_source (Or.inr (Or.inr hsource))
    | ⟨4⟩ => hlow (Or.inr hsource)

theorem pairing_ahead (left : Nat) (taken : List String) (plot : Plot Wheel)
    (h : pairing.Comes "x.dat" pairingStart (left + 1) taken plot) : pairing.SampleAhead plot := by
  obtain ⟨hcounter, hsize⟩ := h.budget pairing_valid (.start _ _)
  have h0 : pairingStart.counter.toNat = 0 := rfl
  have h1 : pairingStart.pool.size = 0 := rfl
  have h2 : pairing.settings.maxTags.toNat = 2 := rfl
  exact pairing_sampleAhead (by omega) (by omega)

/-- The state in which the first tag is drawn. -/
def pairingFirst : Plot Wheel := { pairingStart with source := ⟨3⟩ }

/-- The state in which the first tag is recorded. -/
def pairingEntered : Plot Wheel :=
  let picked := stateLeft (pairing.pickOtherTag [] pairingFirst)
  { picked with pool := (picked.pool.insert "bca").2 }

/-- The file comes to its second tag. -/
theorem pairing_comes : ∃ plot, pairing.Comes "x.dat" pairingStart 1 ["bca"] plot ∧
    plot.source = ⟨0⟩ ∧ plot.pool.order = #["bca"] ∧ plot.counter = 1 := by
  have hcount : Draw.between 1 pairing.settings.minTags pairing.settings.maxTags
      pairingStart.source = .ok 2 ⟨3⟩ := eq_ok_iff.2 ⟨by decide +kernel, by decide +kernel⟩
  have hfirst : pairing.Comes "x.dat" pairingStart 2 [] pairingFirst := .first hcount
  have hpick : pairing.pickOtherTag [] pairingFirst =
      .ok "bca" (stateLeft (pairing.pickOtherTag [] pairingFirst)) :=
    eq_ok_iff.2 ⟨by decide +kernel, rfl⟩
  obtain ⟨after, hrecord⟩ : ∃ after, Making.record "x.dat" "bca" pairingEntered = .ok () after :=
    exists_of_answer? (by decide +kernel)
  have hgains : pairing.Gains "x.dat" [] pairingFirst "bca" after :=
    ⟨_, ⟨pairing.patience, hpick⟩, hrecord⟩
  obtain ⟨ledger, disk, hafter⟩ := Making.record_eq_ok hrecord
  have hsource : after.source = pairingEntered.source := by rw [hafter]
  have hpool : after.pool = pairingEntered.pool := by rw [hafter]
  have hcounter : after.counter = pairingEntered.counter := by rw [hafter]
  refine ⟨after, hfirst.next hgains ?_, hsource.trans ?_, ?_, hcounter.trans ?_⟩
  · rw [IsSated, hpool]
    decide +kernel
  · decide +kernel
  · rw [hpool]
    decide +kernel
  · decide +kernel

/-- The file's first tag is drawn again for its second, and then the tagging ends. -/
theorem pairing_redrawing_ends :
    pairing.settings.fault? = none ∧ pairing.Reached pairingStart ∧
    Draw.Answers pairingStart.source ∧
    (∀ left taken plot, pairing.Comes "x.dat" pairingStart (left + 1) taken plot →
      pairing.SampleAhead plot) ∧
    pairing.Ends "x.dat" pairingStart ∧
    ∃ plot sample mid, pairing.Comes "x.dat" pairingStart 1 ["bca"] plot ∧
      pairing.Rounds (· ∈ ["bca"]) plot [sample] mid ∧
      (sample.units : Int) < pairing.settings.tagDensity.units ∧ mid.counter = 1 := by
  have hstart : pairing.Reached pairingStart := .start _ _
  obtain ⟨hdraws, -, hends⟩ := redrawing_ends pairing_valid hstart "x.dat"
  refine ⟨pairing_valid, hstart, Wheel.answers _, pairing_ahead, ?_, ?_⟩
  · exact hends (Wheel.answers _) (Or.inr pairing_ahead)
  · obtain ⟨plot, hcomes, hsource, horder, hcounter⟩ := pairing_comes
    have hcount : plot.counter.toNat ≤ 1 := by
      rw [hcounter]
      exact Nat.le_refl 1
    have hsize : plot.pool.size ≤ 1 := by
      rw [Pool.size, horder]
      exact Nat.le_refl 1
    obtain ⟨sample, tag, next, attempt, -, hempty | htag⟩ :=
      pairing_attempt hcount hsize (Or.inl hsource)
    · rw [horder] at hempty
      cases hempty
    · rw [horder] at htag
      cases htag
      have hrounds : pairing.Rounds (· ∈ ["bca"]) plot [sample] next :=
        .more attempt (List.mem_singleton_self _) (.none next)
      obtain ⟨hbelow, hkept, -, -⟩ := (hdraws 0 ["bca"] plot hcomes).2 _ _ hrounds
      exact ⟨plot, sample, next, hcomes, hrounds, hbelow sample (List.mem_singleton_self _),
        hkept.trans hcounter⟩

end Generator

end Thicket
