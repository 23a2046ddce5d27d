/-
  What the two extreme densities make of a ledger.

  No sample is below the density zero, so every tag is a new identifier, and no tag has two lines.
  Every sample is below the density one, so the first tag is new, as there is none to choose, and
  every tag after it is chosen from a pool that has only that one.  Both are properties of the
  lines that outlast another line (`Generator.Upholds`), so they hold of the lines of a completed
  fixture.

  1. **Samples** — a sample is a multiple of the smallest unit and less than one
     (`units_lt_unitsPerOne`), so how it compares with a density is a matter of whole numbers.
     Zero has two signs, and both compare alike.
  2. **Files with a line** — at the density one a file has no second line, for that density is
     saturated: after its first tag a file gets no more.  So there are as many lines as files with
     a line (`Tagged.length_lines`).
-/
import Thicket.Proofs.Fixture.Tagged
import Thicket.Proofs.Fixture.Totals

namespace Thicket

namespace Binary64

/-! ## Samples and the extreme densities

  The density is a parameter that is not refused, so it is a number from zero to one; only its
  two ends are of interest here. -/

/-- No sample is below zero. -/
theorem exceedsSample_of_units_nonpos {x : Binary64} (h : x.units ≤ 0) (sample : Sample) :
    x.exceedsSample sample = false := by
  have hsample : ¬ (sample.units : Int) < x.units := by omega
  rw [exceedsSample, decide_eq_false hsample, Bool.and_false]

/-- Every sample is below one. -/
theorem units_lt_unitsPerOne (sample : Sample) : sample.units < unitsPerOne := by
  have hscaled : ∀ scale, sample.val * 2 ^ scale < 2 ^ (52 + scale) := by
    intro scale
    rw [Nat.pow_add]
    exact Nat.mul_lt_mul_of_pos_right sample.isLt (Nat.two_pow_pos scale)
  have hlt := hscaled 1022
  rw [show 52 + 1022 = 1074 from rfl] at hlt
  exact hlt

/-- From one on a density is above every sample. -/
theorem exceedsSample_of_unitsPerOne_le {x : Binary64} (hnumber : x.isNaN = false)
    (h : (unitsPerOne : Int) ≤ x.units) (sample : Sample) : x.exceedsSample sample = true := by
  have hsample := units_lt_unitsPerOne sample
  rw [exceedsSample, hnumber, decide_eq_true (by omega)]
  rfl

end Binary64

namespace Generator

variable {generator : Generator}

/-- At the density zero every line has a tag of its own. -/
theorem upholds_nodup
    (h : ∀ sample, generator.settings.tagDensity.exceedsSample sample = false) :
    generator.Upholds fun lines => (lines.map Prod.snd).Nodup where
  reused := by
    rintro lines owner tag - - ⟨sample, hsample⟩
    rw [h sample] at hsample
    cases hsample
  minted := by
    intro lines owner tag hnodup hnew _
    rw [List.map_append]
    exact hnodup.append (List.nodup_singleton tag) (List.disjoint_singleton.2 hnew)

/-- At the density one all lines have one tag. -/
theorem upholds_one_tag
    (h : ∀ sample, generator.settings.tagDensity.exceedsSample sample = true) :
    generator.Upholds fun lines => ∃ tag, ∀ line ∈ lines, line.2 = tag where
  reused := by
    rintro lines owner tag ⟨only, honly⟩ hused -
    obtain ⟨line, hline, rfl⟩ := List.mem_map.1 hused
    refine ⟨only, ?_⟩
    intro other hother
    rcases List.mem_append.1 hother with hbefore | hlast
    · exact honly other hbefore
    · rw [List.mem_singleton.1 hlast]
      exact honly line hline
  minted := by
    rintro lines owner tag - - (rfl | ⟨sample, hsample⟩)
    · exact ⟨tag, fun line hline => by rw [List.mem_singleton.1 hline]⟩
    · rw [h sample] at hsample
      cases hsample

/-! ## Files with a line

  The lines of one file follow one another, and what is counted is how many of them a file has. -/

theorem length_tagsOf (file : String) (lines : List (String × String)) :
    (Ledger.tagsOf file lines).length = (lines.map Prod.fst).count file := by
  rw [Ledger.tagsOf, List.length_map, List.count_eq_length_filter, List.filter_map,
    List.length_map]
  rfl

theorem tagsOf_ne_nil_iff {file : String} {lines : List (String × String)} :
    Ledger.tagsOf file lines ≠ [] ↔ file ∈ lines.map Prod.fst := by
  rw [← List.length_pos_iff, length_tagsOf, List.count_pos_iff]

/-- **Where a file has one line at most, there are as many lines as files with a line.** -/
theorem Tagged.length_lines {settings : Settings} {disk : Disk} {top : Place}
    {lines : List (String × String)} (h : Tagged settings disk top lines)
    (hsaturated : settings.isSaturated = true) :
    lines.length = ((disk.filesBelow top).filter fun file =>
      decide (Ledger.tagsOf (Path.lastName file) lines ≠ [])).length := by
  -- at a saturated density no file has two lines, so files with tags and lines are as many
  have howners : (lines.map Prod.fst).Nodup := by
    rw [List.nodup_iff_count_le_one]
    intro owner
    by_cases howner : owner ∈ lines.map Prod.fst
    · obtain ⟨line, hline, rfl⟩ := List.mem_map.1 howner
      obtain ⟨file, ⟨hfile, hname⟩, -⟩ := h.owner line hline
      rw [← length_tagsOf, ← hname]
      exact (h.entered file hfile).saturated hsaturated
    · rw [List.count_eq_zero_of_not_mem howner]
      exact Nat.zero_le 1
  have hfiles : (((disk.filesBelow top).filter fun file =>
      decide (Ledger.tagsOf (Path.lastName file) lines ≠ [])).map Path.lastName).Nodup := by
    refine List.Nodup.map_on ?_ ((Disk.filesBelow_nodup disk top).filter _)
    intro first hfirst second hsecond hsame
    rw [List.mem_filter, decide_eq_true_eq, tagsOf_ne_nil_iff, List.mem_map] at hfirst hsecond
    obtain ⟨line, hline, hname⟩ := hfirst.2
    obtain ⟨file, -, honly⟩ := h.owner line hline
    rw [honly first ⟨hfirst.1, hname.symm⟩, honly second ⟨hsecond.1, hsame.symm.trans hname.symm⟩]
  have hperm := (List.perm_ext_iff_of_nodup howners hfiles).2 ?_
  · rw [← List.length_map (f := Prod.fst), hperm.length_eq, List.length_map]
  · intro name
    constructor
    · intro hname
      obtain ⟨line, hline, rfl⟩ := List.mem_map.1 hname
      obtain ⟨file, ⟨hfile, hsame⟩, -⟩ := h.owner line hline
      refine List.mem_map.2 ⟨file, List.mem_filter.2 ⟨hfile, ?_⟩, hsame⟩
      exact decide_eq_true (tagsOf_ne_nil_iff.2 (hsame ▸ hname))
    · intro hname
      obtain ⟨file, hfile, rfl⟩ := List.mem_map.1 hname
      exact tagsOf_ne_nil_iff.1 (of_decide_eq_true (List.mem_filter.1 hfile).2)

/-! ## Completed fixtures -/

variable {σ : Type} [WordSource σ] {name : String} {world after : World σ} {base : Place}
  {sketch : Sketch σ} {summary : Summary}

/-- What outlasts every line holds of the lines of a completed fixture. -/
theorem Completed.kept (h : Completed generator name world base sketch summary after)
    (hvalid : generator.settings.fault? = none) {kept : List (String × String) → Prop}
    (hupholds : generator.Upholds kept) (hnone : kept []) : kept sketch.history.lines := by
  have hadmits : generator.Admits (fun place => !Path.isSpellable (place ++ name :: base))
      fun _ _ => True := ⟨fun _ => trivial, fun _ _ _ _ _ _ => trivial⟩
  have hfill := sketchFill_ensures_keeping hadmits hupholds hvalid hnone
    (Sketch.start world.source) rfl
  rw [h.sketched] at hfill
  exact hfill.2

/-- **The extreme densities.**  After a successful call at the density zero, with either sign, no
    tag has two lines, so there are as many tags as lines.  At the density one all lines have the
    same tag, and they are as many as the files that have one; where files without tags are
    disallowed, those are all files. -/
theorem generate_at_extreme_density (hvalid : generator.settings.fault? = none)
    (hplain : generator.LedgerPlain name world)
    (hgenerate : generator.generate name world = .ok summary after) :
    ∃ base lines, generator.base? world = some base ∧
      after.disk.get? (ledgerPlace name base) = some (.file (Ledger.text lines).toUTF8) ∧
      Ledger.readLines (Ledger.text lines) = lines ∧
      (generator.settings.tagDensity = Binary64.ofDecimal false 0 0 ∨
          generator.settings.tagDensity = Binary64.ofDecimal true 0 0 →
        (lines.map Prod.snd).Nodup ∧ summary.distinctTags = summary.ledgerEntries) ∧
      (generator.settings.tagDensity = Binary64.ofDecimal false 1 0 →
        (∃ tag, ∀ line ∈ lines, line.2 = tag) ∧ summary.distinctTags ≤ 1 ∧
        summary.ledgerEntries = ((after.disk.filesBelow (name :: base)).filter fun file =>
          decide (Ledger.tagsOf (Path.lastName file) lines ≠ [])).length ∧
        (generator.settings.untaggedFilesDisallowed = true →
          summary.ledgerEntries = (after.disk.filesBelow (name :: base)).length)) := by
  obtain ⟨base, sketch, h⟩ := generate_eq_ok hplain.unlinked hgenerate
  have haccounted := h.accounted hvalid
  have hcounts := h.counts hvalid
  refine ⟨base, sketch.history.lines, h.base_eq, h.ledger_eq hplain,
    readLines_text_of_accounted haccounted, ?_, ?_⟩
  · intro hzero
    -- no sample is below zero, so every tag is a new one
    have hbelow : ∀ sample, generator.settings.tagDensity.exceedsSample sample = false := by
      refine Binary64.exceedsSample_of_units_nonpos ?_
      rcases hzero with hzero | hzero <;> rw [hzero] <;> decide +kernel
    have hnodup := h.kept hvalid (upholds_nodup hbelow) List.nodup_nil
    refine ⟨hnodup, ?_⟩
    rw [hcounts.distinctTags, hcounts.ledgerEntries, hnodup.dedup, List.length_map]
  · intro hone
    -- every sample is below one, so a tag is new only where there is none
    have habove : ∀ sample, generator.settings.tagDensity.exceedsSample sample = true := by
      rw [hone]
      exact Binary64.exceedsSample_of_unitsPerOne_le (by decide +kernel) (by decide +kernel)
    have hsaturated : generator.settings.isSaturated = true := by
      rw [Settings.isSaturated, hone]
      decide +kernel
    obtain ⟨tag, htag⟩ := h.kept hvalid (upholds_one_tag habove) ⟨"", by simp⟩
    have hlength := (h.tagged hvalid).length_lines hsaturated
    refine ⟨⟨tag, htag⟩, ?_, hcounts.ledgerEntries.trans hlength, ?_⟩
    · have hsubset : (sketch.history.lines.map Prod.snd).dedup ⊆ [tag] := by
        intro used hused
        obtain ⟨line, hline, rfl⟩ := List.mem_map.1 (List.mem_dedup.1 hused)
        exact List.mem_singleton.2 (htag line hline)
      rw [hcounts.distinctTags]
      exact (List.nodup_dedup _).length_le_of_subset hsubset
    · intro hdisallowed
      rw [hcounts.ledgerEntries, hlength, List.filter_eq_self.2]
      intro file hfile
      obtain ⟨line, hline, hname⟩ := (h.tagged hvalid).mentioned hdisallowed file hfile
      exact decide_eq_true (tagsOf_ne_nil_iff.2 (List.mem_map.2 ⟨line, hline, hname⟩))

end Generator

/-! ## Two files

  A generator of two files with a tag each, at any density: enough to tell the two extremes
  apart. -/

/-- A generator of fixtures with two files, one at the top and one below it, and one tag for
    each. -/
def Generator.twin (density : Binary64) : Generator :=
  { little with
    settings := {
      depth := 1
      branchFactor := 1
      maxFiles := 2
      maxFileSize := 0
      maxTags := 1
      tagDensity := density
      untaggedFilesDisallowed := true
      root := "/" } }

/-- An empty disk and a source from which the numbers in the middle are drawn. -/
def World.middling : World Steady := ⟨⟨0x60000000⟩, Disk.empty, #[]⟩

namespace Generator

theorem twin_base (density : Binary64) : (twin density).base? World.middling = some [] := by
  refine base?_of_resolve ?_
  show Disk.empty.resolve "/" = .ok []
  decide +kernel

theorem twin_ledgerPlain (density : Binary64) :
    (twin density).LedgerPlain "f" World.middling := by
  intro base hbase
  cases (twin_base density).symm.trans hbase
  exact Or.inl (by decide +kernel)

/-- At the density minus zero the two files have different tags, and at the density one the same. -/
theorem twins_at_extreme_density :
    (∃ summary after,
      (twin (Binary64.ofDecimal true 0 0)).generate "f" World.middling = .ok summary after ∧
      summary.distinctTags = summary.ledgerEntries ∧ summary.ledgerEntries = 2 ∧
      ∃ lines, after.disk.get? (ledgerPlace "f" []) = some (.file (Ledger.text lines).toUTF8) ∧
        (lines.map Prod.snd).Nodup) ∧
    ∃ summary after,
      (twin (Binary64.ofDecimal false 1 0)).generate "f" World.middling = .ok summary after ∧
      summary.ledgerEntries = (after.disk.filesBelow ["f"]).length ∧ summary.ledgerEntries = 2 ∧
      ∃ lines, after.disk.get? (ledgerPlace "f" []) = some (.file (Ledger.text lines).toUTF8) ∧
        ∃ tag, ∀ line ∈ lines, line.2 = tag := by
  constructor
  · obtain ⟨after, hgenerate⟩ : ∃ after,
        (twin (Binary64.ofDecimal true 0 0)).generate "f" World.middling = .ok {
          seed := 0, target := "/f", ledger := "/f.tag", directories := 2, files := 2,
          payloadBytes := 0, ledgerEntries := 2, distinctTags := 2 } after :=
      exists_of_answer? (by decide +kernel)
    obtain ⟨base, lines, hbase, hledger, -, hzero, -⟩ :=
      generate_at_extreme_density (by decide +kernel) (twin_ledgerPlain _) hgenerate
    cases (twin_base _).symm.trans hbase
    obtain ⟨hnodup, hcount⟩ := hzero (Or.inr rfl)
    exact ⟨_, after, hgenerate, hcount, rfl, lines, hledger, hnodup⟩
  · obtain ⟨after, hgenerate⟩ : ∃ after,
        (twin (Binary64.ofDecimal false 1 0)).generate "f" World.middling = .ok {
          seed := 0, target := "/f", ledger := "/f.tag", directories := 2, files := 2,
          payloadBytes := 0, ledgerEntries := 2, distinctTags := 1 } after :=
      exists_of_answer? (by decide +kernel)
    obtain ⟨base, lines, hbase, hledger, -, -, hone⟩ :=
      generate_at_extreme_density (by decide +kernel) (twin_ledgerPlain _) hgenerate
    cases (twin_base _).symm.trans hbase
    obtain ⟨htag, -, -, hcount⟩ := hone rfl
    exact ⟨_, after, hgenerate, hcount rfl, rfl, lines, hledger, htag⟩

end Generator

end Thicket
