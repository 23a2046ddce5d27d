/-
  Every identifier of a fixture is used once.

  The history of a completed fixture accounts for every identifier below the final counter
  (`Generator.sketchFill_ensures`).  What is left is to find the history again in what the call
  leaves behind:

  1. **The tree** — the directories and files of the history are those below the fixture directory
     (`Completed.perm_directoriesBelow`, `Completed.perm_filesBelow`).  They are listed in another
     order, by place and not by time, so what is shown are permutations.
  2. **The ledger** — its lines can be read again, since neither names nor tags have a tab or a
     line's end in them (`readLines_text_of_accounted`); the different tags in them are those in
     use.
  3. **The reports** — each filled directory tells its depth and the number of its slots, and at the
     greatest depth slots make nothing (`slotsReported_noticesSince`).

  Put together, what is left behind are the identifiers of the history in another order
  (`Completed.perm_identifiersLeft`), and a list without repetitions has none in another order
  either.
-/
import Thicket.Proofs.Disk.Census
import Thicket.Proofs.Fixture.Completion
import Thicket.Proofs.Ledger.Reading
import Thicket.Proofs.Sketch.Contract
import Mathlib.Data.List.Dedup

namespace Thicket

variable {σ : Type}

/-! ## Reports

  Notices are the reports of a run in their order; those of a call are what it has added. -/

/-- What was reported since an earlier state of the world. -/
def World.noticesSince (after before : World σ) : List Notice :=
  after.notices.toList.drop before.notices.size

/-- The number of slots that a report tells of, if it is of a directory at the depth. -/
def Notice.slotsAt (depth : Nat) : Notice → Nat
  | .filled _ there slots _ => if there = depth then slots.toNat else 0
  | _ => 0

/-- The number of slots that were drawn in directories at a depth, going by the reports. -/
def slotsReported (depth : Nat) (notices : List Notice) : Nat :=
  (notices.map (Notice.slotsAt depth)).sum

theorem History.slotsReported_notices (depth : Nat) (top : Place) (history : History) :
    slotsReported depth (history.notices top) = history.slotsAt depth := by
  induction history with
  | nil => rfl
  | cons event before ih =>
    rw [notices, slotsReported, List.map_append, List.sum_append, ← slotsReported, ih]
    cases event <;> simp [slotsAt, Event.notice?, Notice.slotsAt]

namespace Generator

/-! ## Texts without marks

  A line is a name, a tab, a tag and a line's end, so it can be cut again if the two have no
  such marks. -/

/-- An identifier with a suffix has no marks if the suffix has none. -/
theorem fits_encode_append (codec : Codec) (counter : UInt64) {suffix : String}
    (h : Ledger.Fits suffix) : Ledger.Fits (codec.encode counter ++ suffix) := by
  constructor
  · rw [String.toList_append, List.mem_append, not_or]
    exact ⟨Codec.not_mem_encode (by decide) counter, h.1⟩
  · rw [String.toList_append, List.mem_append, not_or]
    exact ⟨Codec.not_mem_encode (by decide) counter, h.2⟩

theorem fits_encode (codec : Codec) (counter : UInt64) : Ledger.Fits (codec.encode counter) := by
  have h : Ledger.Fits (codec.encode counter ++ "") :=
    fits_encode_append codec counter (by rw [Ledger.Fits]; decide)
  rw [String.append_empty] at h
  exact h

/-! ## The history found again -/

variable [WordSource σ] {generator : Generator} {name : String} {world after : World σ}
  {base : Place} {sketch : Sketch σ} {summary : Summary}

/-- At the end of a completed fixture nothing is pending. -/
theorem Completed.accounted (h : Completed generator name world base sketch summary after)
    (hvalid : generator.settings.fault? = none) : generator.Accounts [] 0 sketch.toProgress := by
  have hadmits : generator.Admits (fun place => !Path.isSpellable (place ++ name :: base))
      fun _ _ => True := ⟨fun _ => trivial, fun _ _ _ _ _ _ => trivial⟩
  have hfill := sketchFill_ensures_accounts hadmits hvalid (Sketch.start world.source) rfl
  rw [h.sketched] at hfill
  exact hfill

section Files

variable {disk : Disk} {top : Place} {history : History}
  (htree : ∀ place, disk.get? (place ++ top) = history.entryAt place) (hwell : history.WellMade)
  (hnodup : history.filePlaces.Nodup)

include htree hwell hnodup

omit [WordSource σ]

/-- The files below a directory where everything is as a history tells. -/
theorem perm_filesBelow_of_tree :
    (disk.filesBelow top).Perm (history.filePlaces.map fun place => place ++ top) := by
  refine (List.perm_ext_iff_of_nodup (Disk.filesBelow_nodup _ _) ?_).2 ?_
  · exact hnodup.map fun first second hsame => append_top_inj.1 hsame
  · intro place
    rw [Disk.mem_filesBelow, List.mem_map]
    constructor
    · rintro ⟨⟨content, hentry⟩, front, hfront, rfl⟩
      rw [htree] at hentry
      obtain ⟨event, hevent, hplace, hfile⟩ :=
        (History.exists_event_of_entryAt hentry).resolve_left hfront
      exact ⟨front, History.mem_filePlaces.2 ⟨event, hevent, hplace, content, hfile⟩, rfl⟩
    · rintro ⟨front, hmem, rfl⟩
      obtain ⟨event, hevent, hplace, content, hentry⟩ := History.mem_filePlaces.1 hmem
      refine ⟨⟨content, ?_⟩, front, ?_, rfl⟩
      · rw [htree, History.entryAt_of_mem hwell hevent hplace, hentry]
      · exact Event.ne_nil_of_place? hplace

/-- Their names are those that the history tells of. -/
theorem perm_fileNames_of_tree :
    ((disk.filesBelow top).map Path.lastName).Perm (history.filePlaces.map Path.lastName) := by
  have hperm := (perm_filesBelow_of_tree htree hwell hnodup).map Path.lastName
  rw [Path.map_lastName_append History.ne_nil_of_mem_filePlaces] at hperm
  exact hperm

end Files

section Entries

variable (h : Completed generator name world base sketch summary after)
  (hwell : sketch.history.WellMade)

include h hwell

theorem Completed.perm_directoriesBelow (hnodup : sketch.history.directoryPlaces.Nodup) :
    (after.disk.directoriesBelow (name :: base)).Perm
      (sketch.history.directoryPlaces.map fun place => place ++ name :: base) := by
  refine (List.perm_ext_iff_of_nodup (Disk.directoriesBelow_nodup _ _) ?_).2 ?_
  · exact hnodup.map fun first second hsame => append_top_inj.1 hsame
  · intro place
    rw [Disk.mem_directoriesBelow, List.mem_map]
    constructor
    · rintro ⟨hentry, front, hfront, rfl⟩
      rw [h.tree] at hentry
      have hmade := (History.exists_event_of_entryAt hentry).resolve_left hfront
      exact ⟨front, History.mem_directoryPlaces.2 hmade, rfl⟩
    · rintro ⟨front, hmem, rfl⟩
      obtain ⟨event, hevent, hplace, hentry⟩ := History.mem_directoryPlaces.1 hmem
      refine ⟨?_, front, ?_, rfl⟩
      · rw [h.tree, History.entryAt_of_mem hwell hevent hplace, hentry]
      · exact Event.ne_nil_of_place? hplace

theorem Completed.perm_filesBelow (hnodup : sketch.history.filePlaces.Nodup) :
    (after.disk.filesBelow (name :: base)).Perm
      (sketch.history.filePlaces.map fun place => place ++ name :: base) :=
  perm_filesBelow_of_tree h.tree hwell hnodup

/-- The names of subdirectories are those that the history tells of. -/
theorem Completed.perm_directoryNames (hnodup : sketch.history.directoryPlaces.Nodup) :
    ((after.disk.directoriesBelow (name :: base)).map Path.lastName).Perm
      (sketch.history.directoryPlaces.map Path.lastName) := by
  have hperm := (h.perm_directoriesBelow hwell hnodup).map Path.lastName
  rw [Path.map_lastName_append History.ne_nil_of_mem_directoryPlaces] at hperm
  exact hperm

/-- The names of files are those that the history tells of. -/
theorem Completed.perm_fileNames (hnodup : sketch.history.filePlaces.Nodup) :
    ((after.disk.filesBelow (name :: base)).map Path.lastName).Perm
      (sketch.history.filePlaces.map Path.lastName) :=
  perm_fileNames_of_tree h.tree hwell hnodup

/-- The stems of files are those that the history tells of. -/
theorem Completed.perm_fileStems (hnodup : sketch.history.filePlaces.Nodup) :
    ((after.disk.filesBelow (name :: base)).map fun place => stem (Path.lastName place)).Perm
      (sketch.history.filePlaces.map fun place => stem (Path.lastName place)) := by
  have hperm := (h.perm_fileNames hwell hnodup).map stem
  rw [List.map_map, List.map_map] at hperm
  exact hperm

end Entries

/-- What is read from the ledger are the lines that the history tells of. -/
theorem Completed.readsAs (h : Completed generator name world base sketch summary after) :
    after.disk.ReadsAs (ledgerPlace name base) (Ledger.text sketch.history.lines) := by
  rw [Disk.ReadsAs]
  rcases h.ledger with hfile | ⟨-, hdevice, hlines⟩
  · rw [hfile]
  · rw [hdevice, hlines]
    rfl

/-- The reports tell of as many slots as the history does. -/
theorem Completed.slotsReported_noticesSince
    (h : Completed generator name world base sketch summary after) (depth : Nat) :
    slotsReported depth (after.noticesSince world) = sketch.history.slotsAt depth := by
  obtain ⟨opening, hnotices, hopening⟩ := h.notices
  have hsince : after.noticesSince world = opening ++ sketch.history.notices (name :: base) := by
    rw [World.noticesSince, hnotices, Array.toList_append, List.toList_toArray,
      List.drop_append_of_le_length (Nat.le_of_eq Array.length_toList.symm), ← Array.length_toList,
      List.drop_length, List.nil_append]
  have hsilent : slotsReported depth opening = 0 := by
    rw [slotsReported, List.sum_eq_zero_iff_forall_eq_nat]
    intro slots hslots
    obtain ⟨notice, hmem, rfl⟩ := List.mem_map.1 hslots
    cases notice with
    | filled path there slots files => exact absurd rfl (hopening _ hmem path there slots files)
    | seed value => rfl
    | rootMissing root => rfl
    | ledgerReplaced path => rfl
    | generating target => rfl
  rw [hsince, slotsReported, List.map_append, List.sum_append, ← slotsReported, ← slotsReported,
    hsilent, History.slotsReported_notices, Nat.zero_add]

omit [WordSource σ] in
/-- Lines about identifiers can be read again. -/
theorem readLines_text_of_accounted {pending : List String} {unfilled : Nat}
    (haccounted : generator.Accounts pending unfilled sketch.toProgress) :
    Ledger.readLines (Ledger.text sketch.history.lines) = sketch.history.lines := by
  refine Ledger.readLines_text fun line hline => ⟨?_, ?_⟩
  · obtain ⟨counter, howner⟩ := haccounted.owners line hline
    rw [howner]
    exact fits_encode_append _ _ (by rw [Ledger.Fits]; decide)
  · have htag : line.2 ∈ sketch.history.tags :=
      History.mem_tags_iff.2 (List.mem_map_of_mem hline)
    obtain ⟨counter, -, hcounter⟩ := haccounted.exists_counter
      (List.mem_append_left _ (History.mem_minted_of_mem_tags htag))
    rw [hcounter]
    exact fits_encode _ _

omit [WordSource σ] in
/-- The tags that are read from the ledger are the tags in use. -/
theorem perm_tags_of_accounted (haccounted : generator.Accounts [] 0 sketch.toProgress) :
    ((Ledger.readLines (Ledger.text sketch.history.lines)).map Prod.snd).dedup.Perm
      sketch.history.tags := by
  rw [readLines_text_of_accounted haccounted]
  refine (List.perm_ext_iff_of_nodup (List.nodup_dedup _) ?_).2 ?_
  · exact haccounted.used_nodup.of_append_right
  · intro tag
    rw [List.mem_dedup, History.mem_tags_iff]

/-! ## Identifiers left behind

  What can be seen after a call, with nothing of its inner state but the final counter. -/

/-- The identifiers in what a call leaves behind: the names of the subdirectories, the stems of the
    files and the distinct tags in the ledger. -/
def identifiersLeft (disk : Disk) (top : Place) (ledger : String) : List String :=
  (disk.directoriesBelow top).map Path.lastName ++
    (disk.filesBelow top).map (fun place => stem (Path.lastName place)) ++
    ((Ledger.readLines ledger).map Prod.snd).dedup

/-- What a completed fixture leaves behind are the identifiers of the entries and the tags. -/
theorem Completed.perm_identifiersLeft
    (h : Completed generator name world base sketch summary after)
    (haccounted : generator.Accounts [] 0 sketch.toProgress) :
    (identifiersLeft after.disk (name :: base) (Ledger.text sketch.history.lines)).Perm
      (sketch.history.named ++ sketch.history.tags) := by
  have hdirectories := h.perm_directoryNames haccounted.wellMade haccounted.directoryPlaces_nodup
  have hfiles := h.perm_fileStems haccounted.wellMade haccounted.filePlaces_nodup
  exact (hdirectories.append hfiles).append (perm_tags_of_accounted haccounted)

/-- No identifier is there twice in what a call leaves behind, and no counter is lost. -/
structure IdentifiersUsedOnce (generator : Generator) (world : World σ) (summary : Summary)
    (after : World σ) (top : Place) (ledger : String) (plot : Plot σ) : Prop where
  nodup : (identifiersLeft after.disk top ledger).Nodup
  minted : ∀ identifier ∈ identifiersLeft after.disk top ledger,
    ∃ k < plot.counter, identifier = generator.codec.encode k
  suffixed : ∀ file ∈ after.disk.filesBelow top,
    Path.lastName file = stem (Path.lastName file) ++ fileSuffix
  directories : summary.directories = (after.disk.directoriesBelow top).length + 1
  files : summary.files = (after.disk.filesBelow top).length
  tags : summary.distinctTags = ((Ledger.readLines ledger).map Prod.snd).dedup.length
  /-- What is not in the tree and not in the ledger went to slots at the greatest depth. -/
  counter : plot.counter.toNat =
    (summary.directories - 1) + summary.files + summary.distinctTags +
      slotsReported generator.settings.depth.toNat (after.noticesSince world)

/-- **Identifiers are used once, and none is lost.**  After a successful call the names of all
    subdirectories, the stems of all files and the tags in the ledger are different from each
    other, and each is the identifier of a counter below the last one.  All other counters went to
    slots of the directories at the greatest depth. -/
theorem generate_uses_identifiers_once (hvalid : generator.settings.fault? = none)
    (hlink : generator.LedgerUnlinked name world)
    (hgenerate : generator.generate name world = .ok summary after) :
    ∃ base ledger plot, generator.base? world = some base ∧
      after.disk.ReadsAs (ledgerPlace name base) ledger ∧
      generator.grown? name world = some plot ∧
      IdentifiersUsedOnce generator world summary after (name :: base) ledger plot := by
  obtain ⟨base, sketch, h⟩ := generate_eq_ok hlink hgenerate
  obtain ⟨plot, hplot, hcounter⟩ := h.counter
  have haccounted := h.accounted hvalid
  -- the history has no identifier twice, so neither has any part of it
  have hdirectories := haccounted.directoryPlaces_nodup
  have hfiles := haccounted.filePlaces_nodup
  -- what is left behind is the history in another order
  have hdirectoryNames := h.perm_directoryNames haccounted.wellMade hdirectories
  have hfileStems := h.perm_fileStems haccounted.wellMade hfiles
  have htags := perm_tags_of_accounted haccounted
  have hleft := h.perm_identifiersLeft haccounted
  have hdirectoryCount := hdirectoryNames.length_eq
  have hfileCount := hfileStems.length_eq
  have htagCount := htags.length_eq
  rw [List.length_map, List.length_map, History.length_directoryPlaces] at hdirectoryCount
  rw [List.length_map, List.length_map, History.length_filePlaces] at hfileCount
  refine ⟨base, Ledger.text sketch.history.lines, plot, h.base_eq, h.readsAs, hplot, ?_⟩
  exact {
    nodup := hleft.nodup_iff.2 haccounted.used_nodup
    minted := by
      intro identifier hmem
      rw [hcounter]
      refine haccounted.exists_counter (List.mem_append_left _ ?_)
      exact (History.perm_minted _).mem_iff.1 (List.mem_append_left _ (hleft.mem_iff.1 hmem))
    suffixed := by
      intro file hmem
      obtain ⟨front, hfront, rfl⟩ := List.mem_map.1
        ((h.perm_filesBelow haccounted.wellMade hfiles).mem_iff.1 hmem)
      rw [Path.lastName_append (History.ne_nil_of_mem_filePlaces front hfront)]
      exact History.lastName_eq_stem_append hfront
    directories := by rw [h.summary_eq, hdirectoryCount]
    files := by rw [h.summary_eq, hfileCount]
    tags := by
      rw [h.summary_eq, htagCount]
      exact haccounted.size_pool
    counter := by
      rw [hcounter, haccounted.counter_eq, h.slotsReported_noticesSince, h.summary_eq]
      dsimp only
      omega }

/-- In the little fixture twelve identifiers are used once each: two for subdirectories, three for
    files, three for tags and four for slots that make nothing. -/
theorem little_uses_identifiers_once :
    ∃ summary after, little.generate "f" World.little = .ok summary after ∧
      summary.directories = 3 ∧ summary.files = 3 ∧ summary.distinctTags = 3 ∧
      ∃ base ledger plot, little.base? World.little = some base ∧
        after.disk.ReadsAs (ledgerPlace "f" base) ledger ∧
        little.grown? "f" World.little = some plot ∧
        IdentifiersUsedOnce little World.little summary after ("f" :: base) ledger plot := by
  obtain ⟨after, hgenerate⟩ := little_generates
  exact ⟨_, after, hgenerate, rfl, rfl, rfl,
    generate_uses_identifiers_once little_valid little_ledgerUnlinked hgenerate⟩

end Generator

end Thicket
