/-
  The lines of a ledger, read as numbers.

  A line tells of two identifiers, that of its file and its tag.  Read as counters, the lines tell
  in which order things happened (`Chronicle`): the files were made one after the other, a tag
  that is new was minted after its file was made, and a tag that is not is older than its file.
  So the counters alone tell the first line of a tag from all others.

  Two facts carry this.  Identifiers are used up in the order of their counters
  (`Accounted.counter_lt`).  And in the record of a tree every line stands behind the making of its
  file, with nothing but lines about that file between them, and those have other tags
  (`Tree.headed`).  So a line before is about the same file and has another tag, or it was there
  before the file was made; there is no third case (`line_before`).
-/
import Thicket.Proofs.Sketch.Order

namespace Thicket

/-! ## Lines behind their files

  That every line stands behind the making of its file is carried up from the leaves: two parts
  of a record keep it when they are put one behind the other, for the file and what is between
  it and the line are in the same part. -/

/-- Every line among the events stands behind the making of its file; what is between them are
    lines about that file, with other tags. -/
def Headed (events : List Event) : Prop :=
  ∀ front file tag back, events = front ++ .line file tag :: back →
    ∃ early parent identifier content, ∃ used : List String,
      front = early ++ .file parent identifier content :: used.map (.line file) ∧
        file = identifier ++ Generator.fileSuffix ∧ tag ∉ used

namespace Headed

theorem of_no_line {events : List Event} (h : ∀ file tag, Event.line file tag ∉ events) :
    Headed events := by
  rintro front file tag back rfl
  exact absurd (by simp) (h file tag)

/-- Where the line is in the second part, so are its file and what is between them. -/
theorem append {first second : List Event} (h : Headed first) (h' : Headed second) :
    Headed (first ++ second) := by
  intro front file tag back hsplit
  -- the line is in the one part or in the other
  rcases List.append_eq_append_iff.1 hsplit with ⟨more, rfl, hsecond⟩ | ⟨more, hfirst, hback⟩
  · obtain ⟨early, parent, identifier, content, used, rfl, hname, htag⟩ := h' _ _ _ _ hsecond
    exact ⟨first ++ early, parent, identifier, content, used, (List.append_assoc ..).symm, hname,
      htag⟩
  · cases more with
    | nil =>
      obtain ⟨early, parent, identifier, content, used, hnil, -⟩ := h' [] file tag back hback.symm
      simp at hnil
    | cons event more =>
      obtain ⟨rfl, -⟩ := List.cons.inj hback
      exact h _ _ _ _ hfirst

theorem flatMap {Part : Type} {parts : List Part} {partEvents : Part → List Event}
    (h : ∀ part ∈ parts, Headed (partEvents part)) : Headed (parts.flatMap partEvents) := by
  induction parts with
  | nil => exact of_no_line (by simp)
  | cons part parts ih =>
    obtain ⟨hpart, hparts⟩ := List.forall_mem_cons.1 h
    rw [List.flatMap_cons]
    exact hpart.append (ih hparts)

end Headed

/-- Each tag of a leaf has its line behind the file and behind the lines of the tags before it. -/
theorem Leaf.headed {leaf : Leaf} (h : leaf.tags.Nodup) (directory : Place) :
    Headed (leaf.events directory) := by
  intro front file tag back hsplit
  cases front with
  | nil => cases hsplit
  | cons event front =>
    obtain ⟨rfl, hlines⟩ := List.cons.inj hsplit
    obtain ⟨used, rest, htags, rfl, hrest⟩ := List.map_eq_append_iff.1 hlines
    obtain ⟨own, more, rfl, hown, -⟩ := List.map_eq_cons_iff.1 hrest
    cases hown
    rw [htags] at h
    have htag : tag ∉ used := fun hmem =>
      List.disjoint_of_nodup_append h hmem (List.mem_cons_self ..)
    exact ⟨[], directory, leaf.identifier, leaf.content, used, rfl, rfl, htag⟩

theorem Branch.headed {Slot : Type} {slotEvents : Slot → List Event} {settings : Settings}
    {slotKeeps : Slot → Prop} {branch : Branch Slot} (h : branch.Keeps settings slotKeeps)
    (hslots : ∀ slot ∈ branch.slots, Headed (slotEvents slot)) (directory : Place) (depth : Nat) :
    Headed (branch.events slotEvents directory depth) := by
  have hleaves : Headed (branch.leaves.flatMap (Leaf.events directory)) :=
    Headed.flatMap fun leaf hleaf => Leaf.headed (h.leaves leaf hleaf).nodup directory
  exact ((Headed.flatMap hslots).append hleaves).append (Headed.of_no_line (by simp))

/-- **In the record of a tree every line stands behind the making of its file.** -/
theorem Tree.headed {settings : Settings} (greatest : Nat) {levels : Nat} {tree : Tree levels}
    (h : tree.Keeps settings levels) (directory : Place) :
    Headed (tree.events greatest levels directory) := by
  induction levels generalizing directory with
  | zero =>
    refine Branch.headed h ?_ directory greatest
    exact fun slot _ => Headed.of_no_line (by simp)
  | succ levels ih =>
    refine Branch.headed h ?_ directory _
    intro slot hslot
    have hmade : Headed [.directory directory slot.1] := Headed.of_no_line (by simp)
    exact hmade.append (ih (h.slots slot hslot) _)

/-! ## What was there before

  The record up to a line is cut at the making of the line's file. -/

/-- What is in a line of the record was used up before. -/
theorem Headed.used {early late : List Event} (h : Headed (early ++ late)) {file tag : String}
    (hline : .line file tag ∈ early) :
    Generator.stem file ∈ usedUp early ∧ tag ∈ usedUp early := by
  obtain ⟨front, back, rfl⟩ := List.append_of_mem hline
  obtain ⟨first, parent, identifier, content, used, rfl, rfl, -⟩ :=
    h front file tag (back ++ late) (by simp)
  refine ⟨mem_usedUp.2 ⟨.file parent identifier content, by simp, ?_⟩,
    mem_usedUp.2 ⟨_, hline, rfl⟩⟩
  rw [Generator.stem_append]
  rfl

theorem mem_lines {events : List Event} {line : String × String} :
    line ∈ events.filterMap Event.line? ↔ .line line.1 line.2 ∈ events := by
  rw [List.mem_filterMap]
  constructor
  · rintro ⟨event, hmem, hline⟩
    rw [← Event.eq_line_of_line? hline]
    exact hmem
  · intro hmem
    exact ⟨_, hmem, rfl⟩

/-- A line before is about the same file and has another tag, or it was there before the file was
    made. -/
theorem line_before {early : List Event} {parent : Place} {identifier file : String}
    {content : ByteArray} {used : List String} {line : String × String}
    (h : .line line.1 line.2 ∈ early ++ Event.file parent identifier content ::
      used.map (Event.line file)) :
    .line line.1 line.2 ∈ early ∨ line.1 = file ∧ line.2 ∈ used := by
  simp only [List.mem_append, List.mem_cons, List.mem_map, reduceCtorEq, false_or] at h
  rcases h with hearly | ⟨tag, htag, heq⟩
  · exact Or.inl hearly
  · cases heq
    exact Or.inr ⟨rfl, htag⟩

/-! ## Numbers of lines

  `Follows` is what a reader of the ledger can check with nothing but the codec; that it holds
  of every line is put together from the order of the counters and the cut. -/

/-- The counter of an identifier; zero for what is none. -/
def Codec.counterOf (codec : Codec) (identifier : String) : UInt64 :=
  (codec.decode identifier).getD 0

namespace Ledger

/-- The counter of a line's file. -/
def fileCounter (codec : Codec) (line : String × String) : UInt64 :=
  codec.counterOf (Generator.stem line.1)

/-- The counter of a line's tag. -/
def tagCounter (codec : Codec) (line : String × String) : UInt64 := codec.counterOf line.2

/-- What the counters of a line say of the lines before it. -/
structure Follows (codec : Codec) (before : List (String × String)) (line : String × String) :
    Prop where
  file_counted : codec.decode (Generator.stem line.1) = some (fileCounter codec line)
  tag_counted : codec.decode line.2 = some (tagCounter codec line)
  files_le : ∀ earlier ∈ before, fileCounter codec earlier ≤ fileCounter codec line
  /-- The line is the first one with its tag if and only if the tag is newer than the file. -/
  first_iff : (∀ earlier ∈ before, earlier.2 ≠ line.2) ↔
    fileCounter codec line < tagCounter codec line
  /-- The first line of a tag has a tag that is newer than all tags before. -/
  first_newest : (∀ earlier ∈ before, earlier.2 ≠ line.2) →
    ∀ earlier ∈ before, tagCounter codec earlier < tagCounter codec line
  /-- A file is newer than the tags of the files before it. -/
  other_older : ∀ earlier ∈ before, earlier.1 ≠ line.1 →
    tagCounter codec earlier < fileCounter codec line
  /-- A tag that is used again was the tag of an older file. -/
  again_older : ∀ earlier ∈ before, earlier.2 = line.2 →
    fileCounter codec earlier < fileCounter codec line

/-- Every line follows the lines before it. -/
def Chronicle (codec : Codec) (lines : List (String × String)) : Prop :=
  ∀ before line behind, lines = before ++ line :: behind → Follows codec before line

end Ledger

namespace Accounted

variable {codec : Codec} {depth unfilled : Nat} {progress : Progress}
  (h : Accounted codec depth [] unfilled progress)

include h

/-- What an event uses has a counter. -/
theorem decode_of_uses {event : Event} (hmem : event ∈ progress.history.reverse)
    {identifier : String} (huses : event.uses? = some identifier) :
    codec.decode identifier = some (codec.counterOf identifier) := by
  have hused : identifier ∈ progress.history.minted := by
    rw [← List.reverse_reverse progress.history]
    exact mem_usedUp.2 ⟨event, hmem, huses⟩
  obtain ⟨k, -, rfl⟩ := h.exists_counter (List.mem_append_left _ hused)
  rw [Codec.counterOf, codec.decode_encode]
  rfl

/-- Identifiers are used up in the order of their counters. -/
theorem counterOf_lt {front back : List Event} {event : Event}
    (hhistory : progress.history.reverse = front ++ event :: back) {earlier later : String}
    (hearlier : earlier ∈ usedUp front) (hlater : Mints front event later) :
    codec.counterOf earlier < codec.counterOf later := by
  obtain ⟨k, l, hk, hl, hlt⟩ := h.counter_lt hhistory hearlier hlater
  rw [Codec.counterOf, Codec.counterOf, hk, hl]
  exact hlt

/-- What was in a line before a file was made is older than the file. -/
theorem older_than_file (hheaded : Headed progress.history.reverse) {early late : List Event}
    {parent : Place} {identifier : String} {content : ByteArray}
    (hhistory : progress.history.reverse = early ++ .file parent identifier content :: late)
    {line : String × String} (hline : .line line.1 line.2 ∈ early) :
    Ledger.fileCounter codec line < codec.counterOf identifier ∧
      Ledger.tagCounter codec line < codec.counterOf identifier := by
  have hmints : Mints early (.file parent identifier content) identifier :=
    mints_of_place? rfl rfl early
  rw [hhistory] at hheaded
  obtain ⟨hfile, htag⟩ := hheaded.used hline
  exact ⟨h.counterOf_lt hhistory hfile hmints, h.counterOf_lt hhistory htag hmints⟩

/-- A tag that no line has before is newer than all that was used up before. -/
theorem newer_than_used {front back : List Event} {file tag : String}
    (hhistory : progress.history.reverse = front ++ .line file tag :: back)
    (hfirst : ∀ earlier ∈ front.filterMap Event.line?, earlier.2 ≠ tag) {older : String}
    (holder : older ∈ usedUp front) : codec.counterOf older < codec.counterOf tag := by
  refine h.counterOf_lt hhistory holder (History.mints_line ?_)
  intro hmem
  obtain ⟨earlier, hearlier, hsame⟩ := List.mem_map.1 hmem
  exact hfirst earlier hearlier hsame

/-- **The lines of a tree are a chronicle.** -/
theorem chronicle (hheaded : Headed progress.history.reverse) :
    Ledger.Chronicle codec progress.history.lines := by
  rintro before ⟨file, tag⟩ behind hlines
  obtain ⟨front, back, hhistory, rfl⟩ := History.exists_of_lines_eq hlines
  obtain ⟨early, parent, identifier, content, used, hfront, rfl, hother⟩ :=
    hheaded _ _ _ _ hhistory
  obtain ⟨late, hmade⟩ : ∃ late,
      progress.history.reverse = early ++ .file parent identifier content :: late := by
    rw [hhistory, hfront, List.append_assoc, List.cons_append]
    exact ⟨_, rfl⟩
  have hfile : Ledger.fileCounter codec (identifier ++ Generator.fileSuffix, tag) =
      codec.counterOf identifier := by
    rw [Ledger.fileCounter, Generator.stem_append]
  have hsplit : ∀ earlier ∈ front.filterMap Event.line?, .line earlier.1 earlier.2 ∈ early ∨
      earlier.1 = identifier ++ Generator.fileSuffix ∧ earlier.2 ∈ used := by
    intro earlier hmem
    rw [mem_lines, hfront] at hmem
    exact line_before hmem
  have holder : ∀ earlier : String × String, .line earlier.1 earlier.2 ∈ early →
      Ledger.fileCounter codec earlier < codec.counterOf identifier ∧
        Ledger.tagCounter codec earlier < codec.counterOf identifier :=
    fun earlier => h.older_than_file hheaded hmade
  -- one goal for each field of `Follows`, in their order
  refine ⟨?_, ?_, ?_, ?_, ?_, ?_, ?_⟩
  · rw [hfile, Generator.stem_append]
    have hmem : .file parent identifier content ∈ progress.history.reverse := by simp [hmade]
    exact h.decode_of_uses hmem rfl
  · have hmem : .line (identifier ++ Generator.fileSuffix) tag ∈ progress.history.reverse := by
      simp [hhistory]
    exact h.decode_of_uses hmem rfl
  · intro earlier hmem
    rw [hfile]
    rcases hsplit earlier hmem with hearly | ⟨hsame, -⟩
    · exact UInt64.le_of_lt (holder earlier hearly).1
    · rw [Ledger.fileCounter, hsame, Generator.stem_append]
      exact UInt64.le_refl _
  · rw [hfile]
    constructor
    · intro hfirst
      refine h.newer_than_used hhistory hfirst (mem_usedUp.2 ?_)
      exact ⟨.file parent identifier content, by simp [hfront], rfl⟩
    · -- a tag that was there before the file is older than the file
      intro hlt earlier hmem hsame
      rcases hsplit earlier hmem with hearly | ⟨-, hused⟩
      · have htag := (holder earlier hearly).2
        rw [Ledger.tagCounter, hsame] at htag
        exact UInt64.lt_asymm hlt htag
      · rw [hsame] at hused
        exact hother hused
  · intro hfirst earlier hmem
    refine h.newer_than_used hhistory hfirst (mem_usedUp.2 ?_)
    exact ⟨_, mem_lines.1 hmem, rfl⟩
  · intro earlier hmem hne
    rw [hfile]
    rcases hsplit earlier hmem with hearly | ⟨hsame, -⟩
    · exact (holder earlier hearly).2
    · exact absurd hsame hne
  · intro earlier hmem hsame
    rw [hfile]
    rcases hsplit earlier hmem with hearly | ⟨-, hused⟩
    · exact (holder earlier hearly).1
    · rw [hsame] at hused
      exact absurd hused hother

end Accounted

end Thicket
