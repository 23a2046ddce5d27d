/-
  The account of identifiers holds wherever a tree is being grown.

  `Accounted` is carried through tagging, planting and filling, one contract for each program.  On
  the way two things come out that the programs themselves do not look at.

  1. **No identifier is thrown away.**  A tag that is minted is never one that the file has, so a
     pick that is rejected was a tag in use, and redrawing leaves nothing pending
     (`sketchPickOther_ensures`).
  2. **No entry is ever made where one is already.**  The identifier of a new entry is pending, so
     no entry has its name.  What is left for a growing fixture to halt at are a stalled source,
     and a blocked place among those that it may come to (`Reachable`, `Admits`).

  With the account goes whatever tagging keeps of the lines (`Upholds`).  A tag in use gets
  another line only where the density is above some sample, and a new one gets its first line only
  where the density is not above some sample, or where there is no line yet.  The density alone
  decides which of the two can happen, so what it rules out can be read off the lines.
-/
import Thicket.Proofs.Sketch.Ensures
import Thicket.Proofs.Sketch.Minted

namespace Thicket

/-! ## Places that growing comes to

  The names on the way to such a place are identifiers, and there are no more of them than the
  depth allows, so the path to it is short or long by the settings alone. -/

/-- All names are identifiers. -/
def Codec.Trail (codec : Codec) (place : Place) : Prop :=
  ∀ name ∈ place, ∃ counter, name = codec.encode counter

theorem Codec.trail_nil (codec : Codec) : codec.Trail [] := fun _ hmem => by cases hmem

/-- A place at which a tree of the given depth may have an entry. -/
inductive Codec.Reachable (codec : Codec) (depth : Nat) : Place → Prop where
  | directory {parent : Place} (counter : UInt64) (htrail : codec.Trail parent)
      (hlength : parent.length < depth) : Reachable codec depth (codec.encode counter :: parent)
  | file {parent : Place} (counter : UInt64) (htrail : codec.Trail parent)
      (hlength : parent.length ≤ depth) :
      Reachable codec depth ((codec.encode counter ++ Generator.fileSuffix) :: parent)

/-- Settings that no check refuses. -/
theorem Settings.bounds_of_valid {settings : Settings} (h : settings.fault? = none) :
    1 ≤ settings.branchFactor ∧ settings.minTags ≤ settings.maxTags := by
  unfold Settings.fault? at h
  split at h
  · cases h
  · rename_i hbranches
    split at h
    · cases h
    · split at h
      · cases h
      · rename_i htags
        refine ⟨?_, UInt64.not_lt.1 htags⟩
        rw [UInt64.le_iff_toNat_le, UInt64.toNat_one]
        have hne : settings.branchFactor.toNat ≠ 0 := fun hzero =>
          hbranches (UInt64.toNat_inj.1 hzero)
        omega

namespace Generator

open Sketching

/-- What is accounted for while a generator grows a tree. -/
abbrev Accounts (generator : Generator) (pending : List String) (unfilled : Nat) :
    Progress → Prop :=
  Accounted generator.codec generator.settings.depth.toNat pending unfilled

/-- A property of the lines that outlasts another line, about whatever file: for a tag in use, if
    the density can ask for one, and for a new tag, if the density can ask for that or there is no
    line.  At a density below every sample the first case does not come up, and above every sample
    the second one does only for the first line; so what is true of the lines there can be
    kept. -/
structure Upholds (generator : Generator) (kept : List (String × String) → Prop) : Prop where
  reused : ∀ lines owner tag, kept lines → tag ∈ lines.map Prod.snd →
    (∃ sample, generator.settings.tagDensity.exceedsSample sample = true) →
      kept (lines ++ [(owner, tag)])
  minted : ∀ lines owner tag, kept lines → tag ∉ lines.map Prod.snd →
    (lines = [] ∨ ∃ sample, generator.settings.tagDensity.exceedsSample sample = false) →
      kept (lines ++ [(owner, tag)])

/-- The account holds, and the lines have what is kept of them. -/
def Keeping (generator : Generator) (kept : List (String × String) → Prop)
    (pending : List String) (unfilled : Nat) (progress : Progress) : Prop :=
  generator.Accounts pending unfilled progress ∧ kept progress.history.lines

/-- Where a fixture may halt while it grows: at a stalled source, and at a blocked place that it
    comes to; the account holds there as well. -/
structure Admits (generator : Generator) (blocked : Place → Bool)
    (halts : Halt → Progress → Prop) : Prop where
  stalled : ∀ progress, halts (.mishap .stalled) progress
  refused : ∀ task place progress, blocked place = true →
    generator.codec.Reachable generator.settings.depth.toNat place →
    (∃ pending unfilled, generator.Accounts pending unfilled progress) →
    halts (.refused task place .nameTooLong) progress

/-- Nothing is pending, and the known tags are in use. -/
def Ready (generator : Generator) (kept : List (String × String) → Prop) (unfilled : Nat)
    (known : List String) (progress : Progress) : Prop :=
  generator.Keeping kept [] unfilled progress ∧ ∀ tag ∈ known, tag ∈ progress.history.tags

/-- A new tag may be asked for. -/
def MayMint (generator : Generator) (progress : Progress) : Prop :=
  progress.history.lines = [] ∨
    ∃ sample, generator.settings.tagDensity.exceedsSample sample = false

/-- A tag has been picked: one in use, or one that is pending, as the density asks.  Which of
    the two it is decides whether its line puts an identifier to use. -/
def Picked (generator : Generator) (kept : List (String × String) → Prop) (unfilled : Nat)
    (known : List String) (tag : String) (progress : Progress) : Prop :=
  (tag ∈ progress.history.tags ∧
      (∃ sample, generator.settings.tagDensity.exceedsSample sample = true) ∧
      generator.Keeping kept [] unfilled progress ∨
    generator.MayMint progress ∧ generator.Keeping kept [tag] unfilled progress) ∧
    ∀ tag ∈ known, tag ∈ progress.history.tags

variable {σ : Type} {generator : Generator} {halts : Halt → Progress → Prop}
  {blocked : Place → Bool} {kept : List (String × String) → Prop} {unfilled : Nat}

/-! ## Tagging

  Between a pick and its line the identifier of a new tag is pending; before the pick and behind
  the line nothing is. -/

/-- The next identifier is pending, until an entry is made or a line is recorded for it. -/
theorem nextIdentifier_ensures (hadmits : generator.Admits blocked halts) :
    Ensures (σ := σ) halts (generator.Keeping kept [] unfilled) (nextIdentifier generator.codec)
      fun identifier progress => (∃ counter, identifier = generator.codec.encode counter) ∧
        generator.Keeping kept [identifier] unfilled progress := by
  rintro sketch ⟨h, hkept⟩
  rw [nextIdentifier]
  by_cases hlast : sketch.counter + 1 = 0
  · rw [if_pos hlast]
    exact hadmits.stalled sketch.toProgress
  · rw [if_neg hlast]
    exact ⟨⟨_, rfl⟩, h.next hlast, hkept⟩

/-- A tag that is minted is picked. -/
theorem mintTag_ensures (hadmits : generator.Admits blocked halts) (known : List String) :
    Ensures (σ := σ) halts
      (fun progress => generator.MayMint progress ∧ generator.Ready kept unfilled known progress)
      (nextIdentifier generator.codec) (generator.Picked kept unfilled known) := by
  rintro sketch ⟨hmint, h⟩
  rw [nextIdentifier]
  by_cases hlast : sketch.counter + 1 = 0
  · rw [if_pos hlast]
    exact hadmits.stalled sketch.toProgress
  · rw [if_neg hlast]
    exact ⟨Or.inr ⟨hmint, h.1.1.next hlast, h.1.2⟩, h.2⟩

variable [WordSource σ]

/-- A pick is a tag in use, or a new one that the density may ask for. -/
theorem sketchPick_ensures (hadmits : generator.Admits blocked halts) (known : List String) :
    Ensures (σ := σ) halts (generator.Ready kept unfilled known) generator.sketchPick
      (generator.Picked kept unfilled known) := by
  refine (ensures_draw hadmits.stalled Draw.gives_unit _).bind ?_
  intro sample
  refine Ensures.of_fact fun _ => ?_
  by_cases hsample : generator.settings.tagDensity.exceedsSample sample = true
  · rw [if_pos hsample]
    refine ensures_get ?_
    intro seen
    refine (ensures_draw hadmits.stalled (Draw.gives_choose _ _) _).bind ?_
    intro choice
    cases choice with
    | none =>
      refine (mintTag_ensures hadmits known).of_pre ?_
      rintro progress ⟨hempty, hready, rfl⟩
      -- without tags in use there are no lines
      have htags : seen.history.tags = [] := by
        rw [← hready.1.1.pool, Pool.toList, show seen.pool.order = #[] from hempty]
      exact ⟨Or.inl (History.lines_eq_nil_of_tags htags), hready⟩
    | some tag =>
      refine ensures_pure ?_
      rintro progress ⟨hchosen, hready, rfl⟩
      have htag : tag ∈ seen.history.tags := by
        rw [← hready.1.1.pool]
        exact Array.mem_toList_iff.2 hchosen
      exact ⟨Or.inl ⟨htag, ⟨sample, hsample⟩, hready.1⟩, hready.2⟩
  · rw [if_neg hsample]
    refine (mintTag_ensures hadmits known).of_pre ?_
    intro progress hready
    exact ⟨Or.inr ⟨sample, Bool.eq_false_iff.2 hsample⟩, hready⟩

/-- **Redrawing throws no identifier away**: a tag that the file has is one in use.  So an
    attempt that is rejected has taken nothing from the counter, and the next one begins as the
    first one did. -/
theorem sketchPickOther_ensures (hadmits : generator.Admits blocked halts) (taken : List String) :
    Ensures (σ := σ) halts (generator.Ready kept unfilled taken) (generator.sketchPickOther taken)
      fun tag progress => tag ∉ taken ∧ generator.Picked kept unfilled taken tag progress := by
  refine Ensures.retry hadmits.stalled ?_ _
  refine (sketchPick_ensures hadmits taken).bind ?_
  intro tag
  refine ensures_pure ?_
  rintro progress ⟨hpicked, hknown⟩
  by_cases htaken : tag ∈ taken
  · rw [if_pos (by simpa using htaken)]
    have hold : tag ∈ progress.history.tags := hknown tag htaken
    -- a minted tag would be fresh, but the file has it; so nothing was minted
    rcases hpicked with ⟨-, -, hpicked⟩ | ⟨-, hpending⟩
    · exact ⟨hpicked, hknown⟩
    · exact absurd (History.mem_minted_of_mem_tags hold) hpending.1.fresh
  · rw [if_neg (by simpa using htaken)]
    exact ⟨htaken, hpicked, hknown⟩

omit [WordSource σ] in
/-- A picked tag gets a line, and what is kept of the lines is kept. -/
theorem Keeping.line (hupholds : generator.Upholds kept) {owner : UInt64} {known : List String}
    {tag : String} {progress : Progress}
    (h : generator.Picked kept unfilled known tag progress) :
    generator.Keeping kept [] unfilled { progress with
      pool := (progress.pool.insert tag).2
      history := .line (generator.codec.encode owner ++ fileSuffix) tag :: progress.history } := by
  rcases h with ⟨⟨hold, hsample, haccount, hkept⟩ | ⟨hmint, hpending, hkept⟩, -⟩
  · -- a tag in use has a line already
    refine ⟨Accounted.line (Or.inl ⟨hold, haccount⟩), ?_⟩
    exact hupholds.reused _ _ tag hkept (History.mem_tags_iff.1 hold) hsample
  · -- a minted tag has none, for it is fresh
    refine ⟨Accounted.line (Or.inr hpending), ?_⟩
    refine hupholds.minted _ _ tag hkept ?_ hmint
    intro hold
    exact hpending.fresh (History.mem_minted_of_mem_tags (History.mem_tags_iff.2 hold))

/-- By the tags that are still to be drawn: behind the line of each, the tags that the file has
    by then are in use. -/
theorem sketchTags_ensures (hadmits : generator.Admits blocked halts)
    (hupholds : generator.Upholds kept) (owner : UInt64) (count : Nat) (taken : List String) :
    Ensures (σ := σ) halts (generator.Ready kept unfilled taken)
      (generator.sketchTags (generator.codec.encode owner ++ fileSuffix) count taken)
      fun _ => generator.Keeping kept [] unfilled := by
  induction count generalizing taken with
  | zero => exact ensures_pure fun _ h => h.1
  | succ count ih =>
    refine (sketchPickOther_ensures hadmits taken).bind ?_
    intro tag
    -- putting the tag to use and recording its line settle the account together
    have huse : Ensures (σ := σ) halts
        (fun progress => tag ∉ taken ∧ generator.Picked kept unfilled taken tag progress)
        (useTag tag)
        fun _ progress => ∃ before, generator.Picked kept unfilled taken tag before ∧
          progress = { before with pool := (before.pool.insert tag).2 } :=
      fun sketch h => ⟨sketch.toProgress, h.2, rfl⟩
    refine huse.bind ?_
    intro _
    have hnote : Ensures (σ := σ) halts
        (fun progress => ∃ before, generator.Picked kept unfilled taken tag before ∧
          progress = { before with pool := (before.pool.insert tag).2 })
        (note (.line (generator.codec.encode owner ++ fileSuffix) tag))
        fun _ => generator.Ready kept unfilled (tag :: taken) := by
      refine ensures_note _ ?_
      rintro progress ⟨before, hpicked, rfl⟩
      refine ⟨Keeping.line hupholds hpicked, List.forall_mem_cons.2 ⟨?_, ?_⟩⟩
      · exact History.mem_tags_line.2 (Or.inr rfl)
      · exact fun other hother => History.mem_tags_line.2 (Or.inl (hpicked.2 other hother))
    refine hnote.bind ?_
    intro _
    refine ensures_get ?_
    intro seen
    refine ensures_ite (ensures_pure ?_) ?_
    · exact fun _ h => h.1.1
    · exact (ih _).of_pre fun _ h => h.1

section Growing

variable (hadmits : generator.Admits blocked halts) (hupholds : generator.Upholds kept)
  (hvalid : generator.settings.fault? = none)

include hadmits hupholds hvalid

theorem sketchTagging_ensures (owner : UInt64) :
    Ensures (σ := σ) halts (generator.Keeping kept [] unfilled)
      (generator.sketchTagging (generator.codec.encode owner ++ fileSuffix))
      fun _ => generator.Keeping kept [] unfilled := by
  have hrange := (Settings.bounds_of_valid hvalid).2
  refine (ensures_draw hadmits.stalled (Draw.gives_between _ hrange) _).bind ?_
  intro count
  refine Ensures.of_fact fun _ => ?_
  refine (sketchTags_ensures hadmits hupholds owner count.toNat []).of_pre ?_
  intro progress h
  exact ⟨h, fun _ hmem => by cases hmem⟩

/-! ## Files and directories

  Making an entry settles the identifier that is pending for it. -/

theorem sketchFile_ensures {directory : Place} (htrail : generator.codec.Trail directory)
    (hlength : directory.length ≤ generator.settings.depth.toNat) :
    Ensures (σ := σ) halts (generator.Keeping kept [] unfilled)
      (generator.sketchFile blocked directory) fun _ => generator.Keeping kept [] unfilled := by
  refine (nextIdentifier_ensures hadmits).bind ?_
  intro identifier
  refine Ensures.of_fact ?_
  rintro ⟨counter, rfl⟩
  have hrange : (0 : UInt64) ≤ generator.settings.maxFileSize := UInt64.zero_le
  refine (ensures_draw hadmits.stalled (Draw.gives_between _ hrange) _).bind ?_
  intro length
  refine Ensures.of_fact fun _ => ?_
  refine (ensures_draw hadmits.stalled (Draw.gives_bytes _) _).bind ?_
  intro payload
  refine Ensures.of_fact fun _ => ?_
  refine Ensures.bind ?_ fun _ => sketchTagging_ensures hadmits hupholds hvalid counter
  refine ensures_make ?_ ?_ ?_
  · exact fun progress h => h.1.entryAt_eq_none (Or.inr rfl) directory
  · exact fun progress h hblocked =>
      hadmits.refused _ _ _ hblocked (.file counter htrail hlength) ⟨_, _, h.1⟩
  · rintro progress ⟨haccount, hkept⟩
    refine ⟨haccount.named (Or.inr ⟨payload, rfl⟩), ?_⟩
    simpa [History.lines, Event.line?] using hkept

end Growing

omit [WordSource σ] in
/-- A subdirectory is made at a free place, and the filling of it begins with nothing pending. -/
theorem sketchDirectory_ensures (hadmits : generator.Admits blocked halts) {directory : Place}
    (htrail : generator.codec.Trail directory)
    (hlength : directory.length < generator.settings.depth.toNat)
    {fillChild : Place → Sketching σ Unit}
    (hfill : ∀ child, generator.codec.Trail child → child.length = directory.length + 1 →
      Ensures halts (generator.Keeping kept [] unfilled) (fillChild child)
        fun _ => generator.Keeping kept [] unfilled) :
    Ensures (σ := σ) halts (generator.Keeping kept [] unfilled)
      (generator.sketchDirectory blocked directory fillChild)
      fun _ => generator.Keeping kept [] unfilled := by
  refine (nextIdentifier_ensures hadmits).bind ?_
  intro identifier
  refine Ensures.of_fact ?_
  rintro ⟨counter, rfl⟩
  have hmake : Ensures (σ := σ) halts
      (generator.Keeping kept [generator.codec.encode counter] unfilled)
      (make blocked .createDirectory (generator.codec.encode counter :: directory)
        (.directory directory (generator.codec.encode counter)))
      fun _ => generator.Keeping kept [] unfilled := by
    refine ensures_make ?_ ?_ ?_
    · exact fun progress h => h.1.entryAt_eq_none (Or.inl rfl) directory
    · exact fun progress h hblocked =>
        hadmits.refused _ _ _ hblocked (.directory counter htrail hlength) ⟨_, _, h.1⟩
    · rintro progress ⟨haccount, hkept⟩
      refine ⟨haccount.named (Or.inl rfl), ?_⟩
      simpa [History.lines, Event.line?] using hkept
  refine hmake.bind ?_
  intro _
  exact hfill _ (List.forall_mem_cons.2 ⟨⟨counter, rfl⟩, htrail⟩) rfl

omit [WordSource σ] in
theorem sketchDiscard_ensures (hadmits : generator.Admits blocked halts) (done : Nat) :
    Ensures (σ := σ) halts (generator.Keeping kept [] done) generator.sketchDiscard
      fun _ => generator.Keeping kept [] (done + 1) := by
  refine (nextIdentifier_ensures hadmits).bind ?_
  intro identifier
  refine Ensures.of_fact fun _ => ?_
  refine ensures_note _ ?_
  rintro progress ⟨haccount, hkept⟩
  refine ⟨haccount.discard, ?_⟩
  simpa [History.lines, Event.line?] using hkept

/-! ## Trees -/

section Growing

variable (hadmits : generator.Admits blocked halts) (hupholds : generator.Upholds kept)
  (hvalid : generator.settings.fault? = none)

include hadmits hupholds hvalid

/-- At the greatest depth the slots are counted up to the report; above it there is nothing to
    count. -/
theorem sketchFillWith_ensures {directory : Place} (htrail : generator.codec.Trail directory)
    (hlength : directory.length ≤ generator.settings.depth.toNat) (depth : Nat)
    {slot : Sketching σ Unit}
    (hslot : ∀ done, Ensures halts
      (generator.Keeping kept [] (if depth = generator.settings.depth.toNat then done else 0)) slot
      fun _ => generator.Keeping kept []
        (if depth = generator.settings.depth.toNat then done + 1 else 0)) :
    Ensures (σ := σ) halts (generator.Keeping kept [] 0)
      (generator.sketchFillWith blocked directory depth slot)
      fun _ => generator.Keeping kept [] 0 := by
  have hbranches := (Settings.bounds_of_valid hvalid).1
  refine (ensures_draw hadmits.stalled (Draw.gives_between _ hbranches) _).bind ?_
  intro slots
  refine Ensures.of_fact fun _ => ?_
  -- the loop counts the slots that make nothing, where they are at the greatest depth
  have hslots : Ensures halts (generator.Keeping kept [] 0) (Making.times slots.toNat slot) fun _ =>
      generator.Keeping kept []
        (if depth = generator.settings.depth.toNat then slots.toNat else 0) := by
    have htimes := Ensures.times hslot slots.toNat 0
    rw [Nat.zero_add, ite_self] at htimes
    exact htimes
  refine hslots.bind ?_
  intro _
  have hfiles : (0 : UInt64) ≤ generator.settings.maxFiles := UInt64.zero_le
  refine (ensures_draw hadmits.stalled (Draw.gives_between _ hfiles) _).bind ?_
  intro files
  refine Ensures.of_fact fun _ => ?_
  refine (Ensures.times (fun _ => sketchFile_ensures hadmits hupholds hvalid htrail hlength)
    _ 0).bind ?_
  intro _
  refine ensures_note _ ?_
  rintro progress ⟨haccount, hkept⟩
  refine ⟨haccount.fill, ?_⟩
  simpa [History.lines, Event.line?] using hkept

/-- **Growing a tree keeps the account**, and halts nowhere but where it may.  The names on the
    way to the directory are identifiers, and with the levels that are left they are no more
    than the depth; both are carried down to each child. -/
theorem sketchFill_ensures (levels : Nat) {directory : Place}
    (htrail : generator.codec.Trail directory)
    (hlength : directory.length + levels ≤ generator.settings.depth.toNat) :
    Ensures (σ := σ) halts (generator.Keeping kept [] 0)
      (generator.sketchFill blocked levels directory) fun _ => generator.Keeping kept [] 0 := by
  -- by the levels that may be added: those above the child count for it as well
  induction levels generalizing directory with
  | zero =>
    refine sketchFillWith_ensures hadmits hupholds hvalid htrail hlength _ ?_
    intro done
    rw [if_pos rfl, if_pos rfl]
    exact sketchDiscard_ensures hadmits done
  | succ levels ih =>
    refine sketchFillWith_ensures hadmits hupholds hvalid htrail (by omega) _ ?_
    intro done
    rw [if_neg (by omega), if_neg (by omega)]
    refine sketchDirectory_ensures hadmits htrail (by omega) ?_
    intro child hchild hlength'
    exact ih hchild (by omega)

/-- **Growing a whole tree from the start keeps the account**, and of the lines what tagging
    keeps. -/
theorem sketchFill_ensures_keeping (hnone : kept []) :
    Ensures (σ := σ) halts (fun progress => progress = ⟨0, .empty, []⟩)
      (generator.sketchFill blocked generator.settings.depth.toNat [])
      fun _ => generator.Keeping kept [] 0 := by
  have hlength : ([] : Place).length + generator.settings.depth.toNat ≤
      generator.settings.depth.toNat := by simp
  refine (sketchFill_ensures hadmits hupholds hvalid _ generator.codec.trail_nil hlength).of_pre ?_
  rintro _ rfl
  exact ⟨Accounted.start _ _, hnone⟩

end Growing

/-- **Growing a whole tree from the start keeps the account.** -/
theorem sketchFill_ensures_accounts (hadmits : generator.Admits blocked halts)
    (hvalid : generator.settings.fault? = none) :
    Ensures (σ := σ) halts (fun progress => progress = ⟨0, .empty, []⟩)
      (generator.sketchFill blocked generator.settings.depth.toNat [])
      fun _ => generator.Accounts [] 0 := by
  have hupholds : generator.Upholds fun _ => True :=
    ⟨fun _ _ _ _ _ _ => trivial, fun _ _ _ _ _ _ => trivial⟩
  exact (sketchFill_ensures_keeping hadmits hupholds hvalid trivial).imp fun _ _ h => h.1

end Generator

end Thicket
