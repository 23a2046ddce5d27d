/-
  Tags that are drawn again.

  A tag that a file has already is drawn again.  The file's tags are identifiers that were given
  before (`InOrder`), so an attempt that gives one of them took a sample below the density and left
  the counter as it was (`Attempt.of_mem`): a new identifier is never thrown away, and the first
  sample that is not below the density ends the redrawing.

  The states in which a file comes to a further tag are those that `Comes` lists.  A file has no tag
  when it comes to its first, and at a saturated density it comes to no second
  (`Comes.taken_eq_nil`), so there nothing is drawn again.
-/
import Thicket.Proofs.Tagging.Reached

namespace Thicket

variable {σ : Type}

theorem Making.record_eq_ok {file tag : String} {plot after : Plot σ}
    (h : Making.record file tag plot = .ok () after) :
    ∃ ledger disk, after = { plot with ledger, disk } := by
  rw [Making.record] at h
  split at h
  · rename_i ledger disk _
    cases h
    exact ⟨ledger, disk, rfl⟩
  · cases h

theorem Pool.size_insert_le (pool : Pool) (tag : String) :
    (pool.insert tag).2.size ≤ pool.size + 1 := by
  rw [Pool.insert]
  split
  · exact Nat.le_succ pool.size
  · exact Nat.le_of_eq (Array.size_push tag)

namespace Generator

variable [WordSource σ] {generator : Generator} {file tag : String} {taken : List String}
  {start plot mid after : Plot σ} {samples : List Binary64.Sample} {sample : Binary64.Sample}

/-! ## What a repeated attempt was

  An attempt is repeated only for what it gave, and a tag that the file has was given before. -/

/-- An attempt that gives one of the file's tags took a sample below the density, and no
    identifier. -/
theorem Attempt.of_mem (h : generator.Attempt plot sample tag after)
    (hplot : generator.InOrder taken plot) (htag : tag ∈ taken) :
    generator.settings.tagDensity.exceedsSample sample = true ∧ after.counter = plot.counter := by
  obtain ⟨-, -, houtcome⟩ := h.outcome
  cases houtcome with
  | reused hbelow _ hcounter => exact ⟨hbelow, hcounter⟩
  | minted _ _ hminted _ => exact absurd (hminted ▸ htag) hplot.encode_not_mem

theorem Attempt.counter_le (h : generator.Attempt plot sample tag after) :
    after.counter.toNat ≤ plot.counter.toNat + 1 := by
  obtain ⟨-, -, houtcome⟩ := h.outcome
  cases houtcome with
  | reused _ _ hcounter => exact Nat.le_succ_of_le (Nat.le_of_eq (congrArg UInt64.toNat hcounter))
  | minted _ hleft _ hcounter => rw [hcounter, Codec.toNat_succ hleft]

/-- After an attempt its tag counts among those that were given. -/
theorem Attempt.inOrder (h : generator.Attempt plot sample tag after)
    (hplot : generator.InOrder taken plot) : generator.InOrder (tag :: taken) after := by
  obtain ⟨hpool, -, houtcome⟩ := h.outcome
  exact hplot.picked hpool houtcome

/-- What is left as it was by attempts that gave the file's tags. -/
structure Rounds.Kept (generator : Generator) (taken : List String) (plot : Plot σ)
    (samples : List Binary64.Sample) (mid : Plot σ) : Prop where
  below : ∀ sample ∈ samples, generator.settings.tagDensity.exceedsSample sample = true
  counter : mid.counter = plot.counter
  pool : mid.pool = plot.pool
  inOrder : generator.InOrder taken mid
  reaches : WordSource.Reaches plot.source mid.source

/-- Attempts that gave the file's tags have changed the source and nothing else that matters. -/
theorem Rounds.kept (h : generator.Rounds (· ∈ taken) plot samples mid)
    (hplot : generator.InOrder taken plot) : Rounds.Kept generator taken plot samples mid := by
  induction h with
  | none plot => exact ⟨nofun, rfl, rfl, hplot, Relation.ReflTransGen.refl⟩
  | more attempt hagain _ ih =>
    obtain ⟨hpool, hreaches, -⟩ := attempt.outcome
    obtain ⟨hbelow, hcounter⟩ := attempt.of_mem hplot hagain
    have hrest := ih (hplot.of_fields hcounter hpool)
    exact {
      below := List.forall_mem_cons.2 ⟨hbelow, hrest.below⟩
      counter := hrest.counter.trans hcounter
      pool := hrest.pool.trans hpool
      inOrder := hrest.inOrder
      reaches := hreaches.trans hrest.reaches }

/-- Nothing is drawn again for a file without tags. -/
theorem Rounds.eq_nil (h : generator.Rounds (· ∈ []) plot samples mid) : samples = [] := by
  cases h with
  | none => rfl
  | more _ hagain _ => cases hagain

/-! ## From one tag of a file to the next

  The file's number of tags is drawn at the beginning; from then on only tags are drawn. -/

/-- The file needs no further tag: the density is saturated and there are tags in use. -/
def IsSated (generator : Generator) (plot : Plot σ) : Bool :=
  !plot.pool.isEmpty && generator.settings.isSaturated

/-- The file gets a tag that it has not: drawn, put to use and recorded. -/
def Gains (generator : Generator) (file : String) (taken : List String) (plot : Plot σ)
    (tag : String) (after : Plot σ) : Prop :=
  ∃ picked, generator.Picks taken plot tag picked ∧
    Making.record file tag { picked with pool := (picked.pool.insert tag).2 } = .ok () after

/-- The states in which a file with these tags, which is to get so many more, comes to its next. -/
inductive Comes (generator : Generator) (file : String) (start : Plot σ) :
    Nat → List String → Plot σ → Prop where
  | first {patience : Nat} {count : UInt64} {source : σ}
      (hcount : Draw.between patience generator.settings.minTags generator.settings.maxTags
        start.source = .ok count source) :
      Comes generator file start count.toNat [] { start with source }
  | next {left : Nat} {taken : List String} {plot after : Plot σ} {tag : String}
      (h : Comes generator file start (left + 1) taken plot)
      (hgains : generator.Gains file taken plot tag after)
      (hon : generator.IsSated after = false) : Comes generator file start left (tag :: taken) after

/-- What a tag changes besides the ledger. -/
structure Gained (generator : Generator) (taken : List String) (plot : Plot σ) (tag : String)
    (after : Plot σ) : Prop where
  inOrder : generator.InOrder (tag :: taken) after
  filled : after.pool.isEmpty = false
  reaches : WordSource.Reaches plot.source after.source
  counter_le : after.counter.toNat ≤ plot.counter.toNat + 1
  size_le : after.pool.size ≤ plot.pool.size + 1

/-- What a tag changes, by the rounds and the attempt that gave it. -/
theorem Gains.gained (h : generator.Gains file taken plot tag after)
    (hplot : generator.InOrder taken plot) : generator.Gained taken plot tag after := by
  obtain ⟨picked, hpicks, hrecord⟩ := h
  obtain ⟨samples, mid, sample, hrounds, attempt, -⟩ := picks_iff.1 hpicks
  obtain ⟨ledger, disk, rfl⟩ := Making.record_eq_ok hrecord
  have hkept := hrounds.kept hplot
  have hpicked := attempt.inOrder hkept.inOrder
  obtain ⟨hpool, hreaches, -⟩ := attempt.outcome
  exact {
    inOrder := (hpicked.useTag List.mem_cons_self).of_fields rfl rfl
    filled := hpicked.sound.isEmpty_insert tag
    reaches := hkept.reaches.trans hreaches
    counter_le := hkept.counter ▸ attempt.counter_le
    size_le := by
      rw [← hkept.pool, ← hpool]
      exact Pool.size_insert_le picked.pool tag }

namespace Comes

variable {left : Nat}

/-- When a file comes to a tag, those that it has were given before. -/
theorem inOrder (h : generator.Comes file start left taken plot)
    (hstart : generator.Reached start) : generator.InOrder taken plot := by
  induction h with
  | first _ => exact hstart.inOrder.of_fields rfl rfl
  | next _ hgains _ ih => exact (hgains.gained ih).inOrder

/-- And the source has been led on from where the tagging began. -/
theorem reaches (h : generator.Comes file start left taken plot)
    (hstart : generator.Reached start) : WordSource.Reaches start.source plot.source := by
  induction h with
  | first hcount => exact (Draw.onward_between _ _ _).reaches hcount
  | next h hgains _ ih => exact ih.trans (hgains.gained (h.inOrder hstart)).reaches

/-- A file costs at most as many identifiers as it may have tags, and at most as many places in the
    pool. -/
theorem budget (h : generator.Comes file start left taken plot)
    (hvalid : generator.settings.fault? = none) (hstart : generator.Reached start) :
    plot.counter.toNat + left ≤ start.counter.toNat + generator.settings.maxTags.toNat ∧
      plot.pool.size + left ≤ start.pool.size + generator.settings.maxTags.toNat := by
  induction h with
  | @first patience count source hcount =>
    have hrange := (Settings.bounds_of_valid hvalid).2
    have hbounds := Draw.gives_between patience hrange start.source
    rw [hcount] at hbounds
    have hmost := UInt64.le_iff_toNat_le.1 hbounds.2
    exact ⟨Nat.add_le_add_left hmost _, Nat.add_le_add_left hmost _⟩
  | next h hgains _ ih =>
    have hgained := hgains.gained (h.inOrder hstart)
    have hcounter := hgained.counter_le
    have hsize := hgained.size_le
    constructor <;> omega

/-- At a saturated density a file that comes to its next tag has none. -/
theorem taken_eq_nil (h : generator.Comes file start left taken plot)
    (hstart : generator.Reached start) (hsaturated : generator.settings.isSaturated = true) :
    taken = [] := by
  cases h with
  | first _ => rfl
  | next h hgains hon =>
    have hfilled := (hgains.gained (h.inOrder hstart)).filled
    rw [IsSated, hfilled, hsaturated] at hon
    cases hon

end Comes

end Generator

end Thicket
