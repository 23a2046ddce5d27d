/-
  What a summary says of a fixture.

  The tallies of a run are kept while the fixture grows, each at a step of its own: directories
  when one is made, files and bytes when a file is made, entries when a line is added, tags when
  one is new.  The history keeps them too, and there they are counts of events; so they are counts
  of what the events have left on the disk and in the ledger.

  Directories and files are counted by lists that have the same members and no repetitions
  (`Disk.placesBelow`), and bytes file by file (`Completed.bytesBelow_eq`).  The different tags
  are those of the lines without repetitions.  The counts come from the disk that the call leaves
  behind and from the text of the ledger, and from nothing in between (`generate_counts`).
-/
import Thicket.Proofs.Fixture.Identifiers
import Thicket.Proofs.Fixture.Reproduction
import Thicket.Proofs.Sketch.Beds
import Mathlib.Algebra.BigOperators.Group.List.Basic

namespace Thicket

variable {σ : Type}

/-- How many bytes the files below a directory have together. -/
def Disk.bytesBelow (disk : Disk) (top : Place) : Nat :=
  ((disk.filesBelow top).map fun file => (disk.contentAt file).size).sum

namespace Generator

/-- The summary counts what is in the fixture directory `name` of `base`, and the lines of the
    ledger beside it. -/
structure Counts (summary : Summary) (disk : Disk) (name : String) (base : Place)
    (lines : List (String × String)) : Prop where
  target : summary.target = Path.join (Path.ofPlace base) name
  ledger : summary.ledger = Path.join (Path.ofPlace base) (name ++ ledgerSuffix)
  /-- The fixture directory itself is one of the directories. -/
  top_directory : disk.get? (name :: base) = some .directory
  directories : summary.directories = (disk.directoriesBelow (name :: base)).length + 1
  files : summary.files = (disk.filesBelow (name :: base)).length
  payloadBytes : summary.payloadBytes = disk.bytesBelow (name :: base)
  ledgerEntries : summary.ledgerEntries = lines.length
  distinctTags : summary.distinctTags = (lines.map Prod.snd).dedup.length

variable [WordSource σ] {generator : Generator} {name : String} {world after : World σ}
  {base : Place} {sketch : Sketch σ} {summary : Summary}

/-- The bytes on the disk are those that the history tells of. -/
theorem Completed.bytesBelow_eq (h : Completed generator name world base sketch summary after)
    (hwell : sketch.history.WellMade) (hnodup : sketch.history.filePlaces.Nodup) :
    after.disk.bytesBelow (name :: base) = sketch.history.payloadBytes := by
  have hperm := (h.perm_filesBelow hwell hnodup).map fun file =>
    (after.disk.contentAt file).size
  rw [Disk.bytesBelow, hperm.sum_eq, History.filePlaces_eq_map_contents, List.map_map,
    List.map_map, ← History.sum_size_contents]
  -- file by file the content is the one that was written there
  refine congrArg List.sum (List.map_congr_left ?_)
  rintro ⟨place, content⟩ hmem
  have hentry : after.disk.get? (place ++ name :: base) = some (.file content) := by
    rw [h.tree]
    exact History.entryAt_of_mem_contents hwell hmem
  exact congrArg ByteArray.size (Disk.contentAt_of_get? hentry)

/-- The summary of a completed fixture counts what was made. -/
theorem Completed.counts (h : Completed generator name world base sketch summary after)
    (hvalid : generator.settings.fault? = none) :
    Counts summary after.disk name base sketch.history.lines := by
  have haccounted := h.accounted hvalid
  have hwell := haccounted.wellMade
  have hsteps : ∀ step ∈ base, Path.IsStep step := by
    have hentry : after.disk.get? (name :: base) ≠ none := by
      rw [h.get?_top]
      exact Option.some_ne_none _
    exact (List.forall_mem_cons.1 (Disk.isStep_of_mem hentry)).2
  -- lists that are permutations of each other are as long
  have hdirectories := (h.perm_directoriesBelow hwell haccounted.directoryPlaces_nodup).length_eq
  rw [List.length_map, History.length_directoryPlaces] at hdirectories
  have hfiles := (h.perm_filesBelow hwell haccounted.filePlaces_nodup).length_eq
  rw [List.length_map, History.length_filePlaces] at hfiles
  have htags := (perm_tags_of_accounted haccounted).length_eq
  rw [readLines_text_of_accounted haccounted] at htags
  rw [h.summary_eq]
  exact {
    target := (Path.join_ofPlace hsteps _).symm
    ledger := (Path.join_ofPlace hsteps _).symm
    top_directory := h.get?_top
    directories := by rw [hdirectories]
    files := hfiles.symm
    payloadBytes := (h.bytesBelow_eq hwell haccounted.filePlaces_nodup).symm
    ledgerEntries := rfl
    distinctTags := by
      rw [htags]
      exact haccounted.size_pool }

/-- **The summary equals what is on the disk.**  After a successful call it gives the numbers of
    directories, files and bytes in the fixture directory, the numbers of lines and of different
    tags in the ledger, and the paths of both. -/
theorem generate_counts (hvalid : generator.settings.fault? = none)
    (hplain : generator.LedgerPlain name world)
    (hgenerate : generator.generate name world = .ok summary after) :
    ∃ base text, generator.base? world = some base ∧
      after.disk.get? (ledgerPlace name base) = some (.file text.toUTF8) ∧
      text = Ledger.text (Ledger.readLines text) ∧
      Counts summary after.disk name base (Ledger.readLines text) := by
  obtain ⟨base, sketch, h⟩ := generate_eq_ok hplain.unlinked hgenerate
  have hread := readLines_text_of_accounted (h.accounted hvalid)
  refine ⟨base, Ledger.text sketch.history.lines, h.base_eq, h.ledger_eq hplain, ?_, ?_⟩
  · rw [hread]
  · rw [hread]
    exact h.counts hvalid

/-- The summary of the little fixture counts what it made. -/
theorem little_counts :
    ∃ summary after, little.generate "f" World.little = .ok summary after ∧
      summary.directories = 3 ∧ summary.files = 3 ∧ summary.payloadBytes = 3 ∧
      ∃ base text, little.base? World.little = some base ∧
        after.disk.get? (ledgerPlace "f" base) = some (.file text.toUTF8) ∧
        text = Ledger.text (Ledger.readLines text) ∧
        Counts summary after.disk "f" base (Ledger.readLines text) := by
  obtain ⟨after, hgenerate⟩ := little_generates
  exact ⟨_, after, hgenerate, rfl, rfl, rfl,
    generate_counts little_valid little_ledgerPlain hgenerate⟩

end Generator

end Thicket
