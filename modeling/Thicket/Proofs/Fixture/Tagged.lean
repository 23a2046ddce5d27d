/-
  What a ledger says of the files.

  A ledger names files without their directories.  That tells them apart all the same, for no two
  files of a fixture have one name.  The lines are those of the leaves, leaf after leaf, so the
  lines about one file stand together (`Leaf.together`) and are as many as the file has tags
  (`tagsOf_append`).

  1. **The lines about a file** — in any list that is made of leaves with different names, the
     lines of one leaf are one stretch.  What the settings allow of a leaf they allow of that
     stretch (`Leaf.Keeps.entered`).
  2. **The lines and the files** — the leaves of the record have the names of the files below the
     fixture directory, each once, so every line is about exactly one file (`tagged_of_leaves`).

  The second step asks for a permutation of names and nothing else, so it serves completed
  fixtures and those whose growing has failed alike.
-/
import Thicket.Proofs.Fixture.Identifiers
import Thicket.Proofs.Fixture.Reproduction
import Thicket.Proofs.Sketch.Beds

namespace Thicket

variable {σ : Type}

/-! ## The lines about a file

  A file without tags has no lines, and then its stretch is empty and may stand anywhere. -/

namespace Ledger

/-- The tags that lines give to a file, in order. -/
def tagsOf (file : String) (lines : List (String × String)) : List String :=
  (lines.filter fun line => decide (line.1 = file)).map Prod.snd

/-- Lines about other files do not count. -/
theorem tagsOf_append {file : String} {tags : List String} {before behind : List (String × String)}
    (hother : ∀ line ∈ before ++ behind, line.1 ≠ file) :
    tagsOf file (before ++ tags.map (fun tag => (file, tag)) ++ behind) = tags := by
  have hbefore : before.filter (fun line => decide (line.1 = file)) = [] := by
    rw [List.filter_eq_nil_iff]
    intro line hline
    simpa using hother line (List.mem_append_left _ hline)
  have hbehind : behind.filter (fun line => decide (line.1 = file)) = [] := by
    rw [List.filter_eq_nil_iff]
    intro line hline
    simpa using hother line (List.mem_append_right _ hline)
  have hown : (tags.map fun tag => (file, tag)).filter (fun line => decide (line.1 = file)) =
      tags.map fun tag => (file, tag) := by
    rw [List.filter_eq_self]
    intro line hline
    obtain ⟨tag, -, rfl⟩ := List.mem_map.1 hline
    exact decide_eq_true rfl
  rw [tagsOf, List.filter_append, List.filter_append, hbefore, hown, hbehind, List.nil_append,
    List.append_nil, List.map_map]
  exact List.map_id _

/-- The lines about a file stand together, and its tags are such as the settings allow. -/
structure Entered (settings : Settings) (lines : List (String × String)) (file : String) :
    Prop where
  together : ∃ before behind,
    lines = before ++ (tagsOf file lines).map (fun tag => (file, tag)) ++ behind ∧
      ∀ line ∈ before ++ behind, line.1 ≠ file
  nodup : (tagsOf file lines).Nodup
  minTags_le : settings.minTags.toNat ≤ (tagsOf file lines).length
  le_maxTags : (tagsOf file lines).length ≤ settings.maxTags.toNat
  saturated : settings.isSaturated = true → (tagsOf file lines).length ≤ 1

/-- Where files without tags are disallowed, a file whose lines are as they should be has one. -/
theorem Entered.exists_line {settings : Settings} {lines : List (String × String)} {file : String}
    (h : Entered settings lines file) (hdisallowed : settings.untaggedFilesDisallowed = true) :
    ∃ line ∈ lines, line.1 = file := by
  have hsome : 1 ≤ (tagsOf file lines).length := by
    have hleast := h.minTags_le
    rw [Settings.minTags, if_pos hdisallowed] at hleast
    exact hleast
  rw [tagsOf, List.length_map] at hsome
  obtain ⟨line, hline⟩ := List.exists_mem_of_length_pos hsome
  obtain ⟨hmem, hfile⟩ := List.mem_filter.1 hline
  exact ⟨line, hmem, of_decide_eq_true hfile⟩

end Ledger

/-- Among leaves with different names the lines of each stand together. -/
theorem Leaf.together {leaves : List Leaf} (hnodup : (leaves.map Leaf.name).Nodup) {leaf : Leaf}
    (hleaf : leaf ∈ leaves) :
    ∃ before behind, leaves.flatMap Leaf.lines = before ++ leaf.lines ++ behind ∧
      ∀ line ∈ before ++ behind, line.1 ≠ leaf.name := by
  obtain ⟨first, rest, rfl⟩ := List.append_of_mem hleaf
  rw [List.map_append, List.map_cons, List.nodup_middle, ← List.map_append,
    List.nodup_cons] at hnodup
  refine ⟨first.flatMap Leaf.lines, rest.flatMap Leaf.lines, ?_, ?_⟩
  · rw [List.flatMap_append, List.flatMap_cons, List.append_assoc]
  · intro line hline hname
    rw [← List.flatMap_append] at hline
    obtain ⟨other, hother, hmem⟩ := List.mem_flatMap.1 hline
    obtain ⟨tag, -, rfl⟩ := List.mem_map.1 hmem
    refine hnodup.1 ?_
    rw [← hname]
    exact List.mem_map_of_mem hother

/-- So what the settings say of a leaf they say of its lines. -/
theorem Leaf.Keeps.entered {settings : Settings} {leaves : List Leaf}
    (hnodup : (leaves.map Leaf.name).Nodup) {leaf : Leaf} (hleaf : leaf ∈ leaves)
    (h : leaf.Keeps settings) : Ledger.Entered settings (leaves.flatMap Leaf.lines) leaf.name := by
  obtain ⟨before, behind, hlines, hother⟩ := Leaf.together hnodup hleaf
  have htags : Ledger.tagsOf leaf.name (leaves.flatMap Leaf.lines) = leaf.tags := by
    rw [hlines]
    exact Ledger.tagsOf_append hother
  refine ⟨⟨before, behind, ?_, hother⟩, ?_, ?_, ?_, ?_⟩ <;> rw [htags]
  · exact hlines
  · exact h.nodup
  · exact h.minTags_le
  · exact h.le_maxTags
  · exact h.saturated

namespace Generator

/-! ## The lines and the files

  Read from the ledger, the lines are a list of a file and a tag each, in the order in which
  they were written. -/

/-- The lines tell of the files below a directory, of each as the settings allow. -/
structure Tagged (settings : Settings) (disk : Disk) (top : Place)
    (lines : List (String × String)) : Prop where
  /-- Every line is about exactly one file. -/
  owner : ∀ line ∈ lines, ∃! file, file ∈ disk.filesBelow top ∧ Path.lastName file = line.1
  entered : ∀ file ∈ disk.filesBelow top, Ledger.Entered settings lines (Path.lastName file)
  /-- Where files without tags are disallowed, every file has a line. -/
  mentioned : settings.untaggedFilesDisallowed = true →
    ∀ file ∈ disk.filesBelow top, ∃ line ∈ lines, line.1 = Path.lastName file

/-- The lines of leaves tell of the files, if files and leaves have the same names, each once. -/
theorem tagged_of_leaves {settings : Settings} {disk : Disk} {top : Place} {leaves : List Leaf}
    (hnames : ((disk.filesBelow top).map Path.lastName).Perm (leaves.map Leaf.name))
    (hnodup : (leaves.map Leaf.name).Nodup) (hkeeps : ∀ leaf ∈ leaves, leaf.Keeps settings) :
    Tagged settings disk top (leaves.flatMap Leaf.lines) := by
  have hfiles := hnames.nodup_iff.2 hnodup
  have hentered : ∀ file ∈ disk.filesBelow top,
      Ledger.Entered settings (leaves.flatMap Leaf.lines) (Path.lastName file) := by
    intro file hfile
    obtain ⟨leaf, hleaf, hname⟩ :=
      List.mem_map.1 (hnames.mem_iff.1 (List.mem_map_of_mem hfile))
    rw [← hname]
    exact (hkeeps leaf hleaf).entered hnodup hleaf
  refine ⟨?_, hentered, ?_⟩
  · intro line hline
    obtain ⟨leaf, hleaf, hmem⟩ := List.mem_flatMap.1 hline
    obtain ⟨tag, -, rfl⟩ := List.mem_map.1 hmem
    obtain ⟨file, hfile, hname⟩ :=
      List.mem_map.1 (hnames.mem_iff.2 (List.mem_map_of_mem hleaf))
    refine ⟨file, ⟨hfile, hname⟩, ?_⟩
    rintro other ⟨hother, hsame⟩
    exact List.inj_on_of_nodup_map hfiles hother hfile (hsame.trans hname.symm)
  · intro hdisallowed file hfile
    exact (hentered file hfile).exists_line hdisallowed

variable [WordSource σ] {generator : Generator} {name : String} {world after : World σ}
  {base : Place} {sketch : Sketch σ} {summary : Summary}

/-- The lines of a completed fixture tell of its files. -/
theorem Completed.tagged (h : Completed generator name world base sketch summary after)
    (hvalid : generator.settings.fault? = none) :
    Tagged generator.settings after.disk (name :: base) sketch.history.lines := by
  have haccounted := h.accounted hvalid
  obtain ⟨beds, hlaid⟩ := laidOut_of_sketchFill hvalid h.sketched
  -- the files on the disk and the leaves have the same names, each once
  have hnames := h.perm_fileNames haccounted.wellMade haccounted.filePlaces_nodup
  have hnodup := haccounted.fileNames_nodup
  rw [hlaid.map_lastName_filePlaces] at hnames hnodup
  rw [hlaid.lines_eq_flatMap]
  refine tagged_of_leaves hnames hnodup ?_
  intro leaf hleaf
  obtain ⟨bed, hbed, hmem⟩ := List.mem_flatMap.1 hleaf
  exact (hlaid.keeps bed hbed).leaves leaf hmem

/-- **What the ledger says.**  After a successful call the ledger can be read as lines of a file
    and a tag each.  Every line is about exactly one file of the tree; the lines about a file stand
    together, with different tags, as many as the settings allow; and where files without tags are
    disallowed, every file is mentioned. -/
theorem generate_tags_files (hvalid : generator.settings.fault? = none)
    (hplain : generator.LedgerPlain name world)
    (hgenerate : generator.generate name world = .ok summary after) :
    ∃ base lines, generator.base? world = some base ∧
      after.disk.get? (ledgerPlace name base) = some (.file (Ledger.text lines).toUTF8) ∧
      Ledger.readLines (Ledger.text lines) = lines ∧
      Tagged generator.settings after.disk (name :: base) lines := by
  obtain ⟨base, sketch, h⟩ := generate_eq_ok hplain.unlinked hgenerate
  exact ⟨base, sketch.history.lines, h.base_eq, h.ledger_eq hplain,
    readLines_text_of_accounted (h.accounted hvalid), h.tagged hvalid⟩

/-- The ledger of the little fixture tells of its files. -/
theorem little_tags_files :
    ∃ summary after, little.generate "f" World.little = .ok summary after ∧
      ∃ base lines, little.base? World.little = some base ∧
        after.disk.get? (ledgerPlace "f" base) = some (.file (Ledger.text lines).toUTF8) ∧
        Ledger.readLines (Ledger.text lines) = lines ∧
        Tagged little.settings after.disk ("f" :: base) lines := by
  obtain ⟨after, hgenerate⟩ := little_generates
  exact ⟨_, after, hgenerate, generate_tags_files little_valid little_ledgerPlain hgenerate⟩

end Generator

end Thicket
