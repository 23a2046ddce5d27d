/-
  What the order of the lines tells.

  The ledger of a fixture is a chronicle: read from top to bottom, with the files and the tags as
  counters, it shows in which order the files were made and which tags were new
  (`Ledger.Chronicle`).  And the chronicle is complete.  Every identifier that was given out is the
  name of a directory or a file, or a tag in the ledger, or it went to one of the slots at the
  greatest depth, which take one each; so no identifier became a tag without a line.
-/
import Thicket.Proofs.Fixture.Numbering
import Thicket.Proofs.Sketch.Chronicle

namespace Thicket

namespace Generator

variable {σ : Type} [WordSource σ] {generator : Generator} {name : String}
  {world after : World σ} {base : Place} {sketch : Sketch σ} {summary : Summary}

/-- The lines of a completed fixture are a chronicle. -/
theorem Completed.chronicle (h : Completed generator name world base sketch summary after)
    (hvalid : generator.settings.fault? = none) :
    Ledger.Chronicle generator.codec sketch.history.lines := by
  obtain ⟨tree, hkeeps, htree⟩ := exists_tree_of_sketchFill hvalid h.sketched
  refine (h.accounted hvalid).chronicle ?_
  rw [htree]
  exact Tree.headed _ hkeeps []

/-- What a completed fixture leaves behind, and the slots at the greatest depth, have taken every
    identifier that was given out. -/
theorem Completed.exists_slots (h : Completed generator name world base sketch summary after)
    (hvalid : generator.settings.fault? = none) :
    ∃ slots : List String, slots.length =
        slotsReported generator.settings.depth.toNat (after.noticesSince world) ∧
      (identifiersLeft after.disk (name :: base) (Ledger.text sketch.history.lines) ++ slots).Perm
        (generator.codec.identifiers sketch.counter) := by
  have haccounted := h.accounted hvalid
  refine ⟨sketch.history.discarded, ?_, ?_⟩
  · rw [h.slotsReported_noticesSince, haccounted.discarded, Nat.add_zero]
  · rw [← haccounted.minted_eq]
    exact ((h.perm_identifiersLeft haccounted).append_right _).trans
      (History.perm_minted sketch.history)

/-- **The ledger is a chronicle.**  After a successful call the files in it have counters that never
    go down.  A line is the first one with its tag if and only if the tag's counter is greater than
    that of the file; it is then greater than those of all tags before, and in any case smaller than
    that of every other file on a later line.  A tag that is used again was the tag of an older
    file.  And all identifiers that were given out, but for one for each slot at the greatest depth,
    are in the tree or in the ledger. -/
theorem generate_writes_chronicle (hvalid : generator.settings.fault? = none)
    (hplain : generator.LedgerPlain name world)
    (hgenerate : generator.generate name world = .ok summary after) :
    ∃ base lines plot, generator.base? world = some base ∧
      after.disk.get? (ledgerPlace name base) = some (.file (Ledger.text lines).toUTF8) ∧
      Ledger.readLines (Ledger.text lines) = lines ∧
      Ledger.Chronicle generator.codec lines ∧
      generator.grown? name world = some plot ∧
      ∃ slots : List String, slots.length =
          slotsReported generator.settings.depth.toNat (after.noticesSince world) ∧
        (identifiersLeft after.disk (name :: base) (Ledger.text lines) ++ slots).Perm
          (generator.codec.identifiers plot.counter) := by
  obtain ⟨base, sketch, h⟩ := generate_eq_ok hplain.unlinked hgenerate
  obtain ⟨plot, hplot, hcounter⟩ := h.counter
  have hslots := h.exists_slots hvalid
  rw [← hcounter] at hslots
  exact ⟨base, sketch.history.lines, plot, h.base_eq, h.ledger_eq hplain,
    readLines_text_of_accounted (h.accounted hvalid), h.chronicle hvalid, hplot, hslots⟩

/-- The ledger of the little fixture is a chronicle. -/
theorem little_writes_chronicle :
    ∃ summary after, little.generate "f" World.little = .ok summary after ∧
      ∃ base lines plot, little.base? World.little = some base ∧
        after.disk.get? (ledgerPlace "f" base) = some (.file (Ledger.text lines).toUTF8) ∧
        Ledger.readLines (Ledger.text lines) = lines ∧
        Ledger.Chronicle little.codec lines ∧
        little.grown? "f" World.little = some plot ∧
        ∃ slots : List String, slots.length =
            slotsReported little.settings.depth.toNat (after.noticesSince World.little) ∧
          (identifiersLeft after.disk ("f" :: base) (Ledger.text lines) ++ slots).Perm
            (little.codec.identifiers plot.counter) := by
  obtain ⟨after, hgenerate⟩ := little_generates
  exact ⟨_, after, hgenerate,
    generate_writes_chronicle little_valid little_ledgerPlain hgenerate⟩

end Generator

end Thicket
