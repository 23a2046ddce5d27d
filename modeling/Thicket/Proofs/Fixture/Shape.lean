/-
  The shape of a fixture.

  The directories of a completed fixture are the beds of its tree, and what the settings allow of a
  bed is what the disk has in that directory: its subdirectories by name (`perm_subdirectoriesIn`)
  and at most its leaves besides (`length_othersIn_le`).  Above the greatest depth a directory has
  a subdirectory in any case, so the depth is reached, and by every way down.

  The shape is stated for a disk and the place of the fixture; nothing in it refers to the run.
  What the run has recorded, bed by bed, is found on the disk by the names in each directory: a
  list of names without repetitions on either side, so that their lengths agree.

  That directories without subdirectories are at the greatest depth follows from the shape alone
  (`Shape.length_eq_of_subdirectoriesIn`), and so does that there are some
  (`Shape.exists_directory`).
-/
import Thicket.Proofs.Fixture.Identifiers
import Thicket.Proofs.Sketch.Beds

namespace Thicket

variable {σ : Type}

namespace Generator

/-! ## Shapes

  Depths are counted from the fixture directory: the names on the way from it to a directory. -/

/-- What the settings say of everything that is in a fixture directory. -/
structure Shape (settings : Settings) (codec : Codec) (disk : Disk) (top : Place) : Prop where
  top_directory : disk.get? top = some .directory
  depth_le : ∀ front, disk.get? (front ++ top) = some .directory →
    front.length ≤ settings.depth.toNat
  inner : ∀ front, disk.get? (front ++ top) = some .directory →
    front.length < settings.depth.toNat →
      1 ≤ (disk.subdirectoriesIn (front ++ top)).length ∧
        (disk.subdirectoriesIn (front ++ top)).length ≤ settings.branchFactor.toNat
  last : ∀ front, disk.get? (front ++ top) = some .directory →
    front.length = settings.depth.toNat → disk.subdirectoriesIn (front ++ top) = []
  others_le : ∀ front, disk.get? (front ++ top) = some .directory →
    (disk.othersIn (front ++ top)).length ≤ settings.maxFiles.toNat
  /-- What is no directory is a file with an identifier for a name. -/
  files : ∀ name front entry, disk.get? (name :: front ++ top) = some entry →
    entry ≠ .directory → ∃ counter content, name = codec.encode counter ++ fileSuffix ∧
      entry = .file content ∧ content.size ≤ settings.maxFileSize.toNat

namespace Shape

variable {settings : Settings} {codec : Codec} {disk : Disk} {top : Place}

/-- A directory without subdirectories is at the greatest depth. -/
theorem length_eq_of_subdirectoriesIn (h : Shape settings codec disk top) {front : Place}
    (hentry : disk.get? (front ++ top) = some .directory)
    (hnone : disk.subdirectoriesIn (front ++ top) = []) :
    front.length = settings.depth.toNat := by
  have hle := h.depth_le front hentry
  rcases Nat.lt_or_eq_of_le hle with hlt | heq
  · have hsome := (h.inner front hentry hlt).1
    rw [hnone, List.length_nil] at hsome
    omega
  · exact heq

/-- There are directories at all depths, down to the greatest. -/
theorem exists_directory (h : Shape settings codec disk top) (depth : Nat)
    (hdepth : depth ≤ settings.depth.toNat) :
    ∃ front, front.length = depth ∧ disk.get? (front ++ top) = some .directory := by
  -- one step down at a time, by any subdirectory of the directory reached before
  induction depth with
  | zero => exact ⟨[], rfl, h.top_directory⟩
  | succ depth ih =>
    obtain ⟨front, hlength, hentry⟩ := ih (by omega)
    obtain ⟨hsome, -⟩ := h.inner front hentry (by omega)
    obtain ⟨name, hname⟩ := List.exists_mem_of_length_pos hsome
    refine ⟨name :: front, ?_, Disk.mem_subdirectoriesIn.1 hname⟩
    rw [List.length_cons, hlength]

end Shape

/-! ## From beds to the disk

  A bed is a directory of the record, with its subdirectories and its leaves. -/

variable [WordSource σ] {generator : Generator} {name : String} {world after : World σ}
  {base : Place} {sketch : Sketch σ} {summary : Summary} {beds : List Bed}

section Beds

variable (h : Completed generator name world base sketch summary after)
  (hlaid : sketch.history.LaidOut generator.settings beds)
  (hwell : sketch.history.WellMade) (hnodup : sketch.history.directoryPlaces.Nodup)

include h hlaid hnodup

include hwell in
/-- **The subdirectories on the disk** are those of the bed. -/
theorem Completed.perm_subdirectoriesIn {bed : Bed} (hbed : bed ∈ beds) :
    (after.disk.subdirectoriesIn (bed.place ++ name :: base)).Perm bed.subdirectories := by
  refine (List.perm_ext_iff_of_nodup (Disk.subdirectoriesIn_nodup _ _)
    (hlaid.subdirectories_nodup hnodup hbed)).2 ?_
  intro subdirectory
  rw [Disk.mem_subdirectoriesIn, ← List.cons_append, h.tree,
    History.entryAt_eq_directory_iff hwell, hlaid.mem_subdirectories hnodup hbed]

/-- **What else is on the disk** are leaves of the bed. -/
theorem Completed.length_othersIn_le {bed : Bed} (hbed : bed ∈ beds) :
    (after.disk.othersIn (bed.place ++ name :: base)).length ≤ bed.leaves.length := by
  have hsubset : after.disk.othersIn (bed.place ++ name :: base) ⊆ bed.leaves.map Leaf.name := by
    intro other hother
    obtain ⟨entry, hentry, hne⟩ := Disk.mem_othersIn.1 hother
    rw [← List.cons_append, h.tree] at hentry
    obtain ⟨content, rfl⟩ := (History.directory_or_file_of_entryAt hentry).resolve_left hne
    exact hlaid.mem_names_of_mem_contents hnodup hbed (History.mem_contents_of_entryAt hentry)
  have hlength := (List.subperm_of_subset (Disk.othersIn_nodup _ _) hsubset).length_le
  rw [List.length_map] at hlength
  exact hlength

end Beds

omit [WordSource σ] in
/-- A file is called by an identifier. -/
theorem exists_counter_of_mem_contents (haccounted : generator.Accounts [] 0 sketch.toProgress)
    {file : String} {parent : Place} {content : ByteArray}
    (hmem : (file :: parent, content) ∈ sketch.history.contents) :
    ∃ counter, file = generator.codec.encode counter ++ fileSuffix := by
  have hplace : file :: parent ∈ sketch.history.filePlaces := by
    rw [History.filePlaces_eq_map_contents]
    exact List.mem_map_of_mem hmem
  have hnamed : stem file ∈ sketch.history.named :=
    List.mem_append_right _ (List.mem_map.2 ⟨_, hplace, rfl⟩)
  have hminted : stem file ∈ sketch.history.minted :=
    (History.perm_minted _).mem_iff.1 (by simp [hnamed])
  obtain ⟨counter, -, hcounter⟩ := haccounted.exists_counter (List.mem_append_left _ hminted)
  refine ⟨counter, ?_⟩
  rw [← hcounter]
  exact History.lastName_eq_stem_append hplace

/-- A completed fixture has the shape that its settings ask for. -/
theorem Completed.shape (h : Completed generator name world base sketch summary after)
    (hvalid : generator.settings.fault? = none) :
    Shape generator.settings generator.codec after.disk (name :: base) := by
  have haccounted := h.accounted hvalid
  have hwell := haccounted.wellMade
  have hnodup := haccounted.directoryPlaces_nodup
  obtain ⟨beds, hlaid⟩ := laidOut_of_sketchFill hvalid h.sketched
  -- whatever is asked of a directory is asked of its bed
  have hbeds : ∀ front, after.disk.get? (front ++ name :: base) = some .directory →
      ∃ bed ∈ beds, bed.place = front ∧ bed.Keeps generator.settings
        generator.settings.depth.toNat := by
    intro front hentry
    rw [h.tree] at hentry
    obtain ⟨bed, hbed, hplace⟩ := hlaid.exists_bed hentry
    exact ⟨bed, hbed, hplace, hlaid.keeps bed hbed⟩
  exact {
    top_directory := h.get?_top
    depth_le := by
      intro front hentry
      obtain ⟨bed, -, rfl, hkeeps⟩ := hbeds front hentry
      exact hkeeps.length_le
    inner := by
      intro front hentry hlength
      obtain ⟨bed, hbed, rfl, hkeeps⟩ := hbeds front hentry
      rw [(h.perm_subdirectoriesIn hlaid hwell hnodup hbed).length_eq]
      exact hkeeps.inner hlength
    last := by
      intro front hentry hlength
      obtain ⟨bed, hbed, rfl, hkeeps⟩ := hbeds front hentry
      have hperm := h.perm_subdirectoriesIn hlaid hwell hnodup hbed
      rw [hkeeps.last hlength] at hperm
      exact hperm.eq_nil
    others_le := by
      intro front hentry
      obtain ⟨bed, hbed, rfl, hkeeps⟩ := hbeds front hentry
      exact (h.length_othersIn_le hlaid hnodup hbed).trans hkeeps.leaves_le
    files := by
      intro file front entry hentry hne
      rw [h.tree] at hentry
      obtain ⟨content, rfl⟩ := (History.directory_or_file_of_entryAt hentry).resolve_left hne
      have hmem := History.mem_contents_of_entryAt hentry
      obtain ⟨counter, hname⟩ := exists_counter_of_mem_contents haccounted hmem
      obtain ⟨bed, hbed, leaf, hleaf, -, rfl⟩ := hlaid.mem_contents.1 hmem
      have hkeeps := (hlaid.keeps bed hbed).leaves leaf hleaf
      exact ⟨counter, leaf.content, hname, rfl, hkeeps.size_le⟩ }

/-- **The shape of a fixture.**  After a successful call every directory above the greatest depth
    has a subdirectory and no more than the settings allow, those at that depth have none, and
    beside subdirectories there are files of bounded number and length only.  So directories without
    subdirectories are at the greatest depth, and there are some. -/
theorem generate_keeps_shape (hvalid : generator.settings.fault? = none)
    (hlink : generator.LedgerUnlinked name world)
    (hgenerate : generator.generate name world = .ok summary after) :
    ∃ base, generator.base? world = some base ∧
      Shape generator.settings generator.codec after.disk (name :: base) ∧
      (∀ front, after.disk.get? (front ++ name :: base) = some .directory →
        after.disk.subdirectoriesIn (front ++ name :: base) = [] →
          front.length = generator.settings.depth.toNat) ∧
      ∃ front, front.length = generator.settings.depth.toNat ∧
        after.disk.get? (front ++ name :: base) = some .directory := by
  obtain ⟨base, sketch, h⟩ := generate_eq_ok hlink hgenerate
  have hshape := h.shape hvalid
  refine ⟨base, h.base_eq, hshape, ?_, hshape.exists_directory _ (Nat.le_refl _)⟩
  intro front hentry hnone
  exact hshape.length_eq_of_subdirectoriesIn hentry hnone

/-- The little fixture has its shape. -/
theorem little_keeps_shape :
    ∃ summary after, little.generate "f" World.little = .ok summary after ∧
      ∃ base, little.base? World.little = some base ∧
        Shape little.settings little.codec after.disk ("f" :: base) ∧
        (∀ front, after.disk.get? (front ++ "f" :: base) = some .directory →
          after.disk.subdirectoriesIn (front ++ "f" :: base) = [] →
            front.length = little.settings.depth.toNat) ∧
        ∃ front, front.length = little.settings.depth.toNat ∧
          after.disk.get? (front ++ "f" :: base) = some .directory := by
  obtain ⟨after, hgenerate⟩ := little_generates
  exact ⟨_, after, hgenerate, generate_keeps_shape little_valid little_ledgerUnlinked hgenerate⟩

end Generator

end Thicket
