/-
  The account of identifiers.

  Identifiers come from one counter, and each is used up by something that the history shows: a
  subdirectory, a file, a slot at the greatest depth, or the first line of a tag.  In the order of
  the events these are all identifiers below the counter (`Accounted`); only the last one may still
  be waiting for its event.

  1. **All identifiers below a counter** are different from each other
     (`Codec.identifiers_nodup`), for encoding is one to one, and none of them ends like a file's
     name.
  2. **What used one up** — the entries, the tags and the discarded slots together are a
     permutation of all that was used up (`History.perm_minted`).
  3. **The account** is opened for the empty history (`Accounted.start`) and has one lemma for each
     thing that can happen: an identifier is taken (`next`), and then an entry, a slot or a line
     settles it (`named`, `discard`, `line`), or a directory is completed (`fill`).

  As no two counters share an identifier, the one that waits is fresh (`Accounted.fresh`): no entry
  has its name, with the suffix of files or without, and no tag is equal to it.
-/
import Thicket.Proofs.Codec.Symbols
import Thicket.Proofs.Sketch.Basic
import Mathlib.Data.List.Nodup

namespace Thicket

/-! ## All identifiers below a counter

  The counter is a word, and the list has as many members as its number says. -/

/-- The identifiers of all counters below the given one. -/
def Codec.identifiers (codec : Codec) (counter : UInt64) : List String :=
  (List.range counter.toNat).map fun k => codec.encode (UInt64.ofNat k)

namespace Codec

variable {codec : Codec}

theorem toNat_succ {counter : UInt64} (h : counter + 1 ≠ 0) :
    (counter + 1).toNat = counter.toNat + 1 := by
  have hlt : counter.toNat < 2 ^ 64 := counter.toNat_lt
  have hne : counter.toNat + 1 ≠ 2 ^ 64 := by
    intro hlast
    refine h (UInt64.toNat_inj.1 ?_)
    rw [UInt64.toNat_add, UInt64.toNat_one, hlast]
    rfl
  rw [UInt64.toNat_add, UInt64.toNat_one, Nat.mod_eq_of_lt (by omega)]

/-- With each step of the counter there is one identifier more, the last one. -/
theorem identifiers_succ {counter : UInt64} (h : counter + 1 ≠ 0) :
    codec.identifiers (counter + 1) = codec.identifiers counter ++ [codec.encode counter] := by
  rw [identifiers, toNat_succ h, List.range_succ, List.map_append, List.map_singleton,
    UInt64.ofNat_toNat]
  rfl

theorem length_identifiers (codec : Codec) (counter : UInt64) :
    (codec.identifiers counter).length = counter.toNat := by
  rw [identifiers, List.length_map, List.length_range]

/-- No identifier is there twice. -/
theorem identifiers_nodup (codec : Codec) (counter : UInt64) :
    (codec.identifiers counter).Nodup := by
  refine List.Nodup.map_on ?_ List.nodup_range
  intro first hfirst second hsecond heq
  have hlt : counter.toNat < 2 ^ 64 := counter.toNat_lt
  rw [List.mem_range] at hfirst hsecond
  have hcounter := congrArg UInt64.toNat (codec.encode_injective heq)
  rw [UInt64.toNat_ofNat_of_lt' (by exact Nat.lt_trans hfirst hlt),
    UInt64.toNat_ofNat_of_lt' (by exact Nat.lt_trans hsecond hlt)] at hcounter
  exact hcounter

theorem mem_identifiers {counter : UInt64} {identifier : String} :
    identifier ∈ codec.identifiers counter ↔ ∃ k < counter, identifier = codec.encode k := by
  rw [identifiers, List.mem_map]
  constructor
  · rintro ⟨k, hk, rfl⟩
    have hlt : k < counter.toNat := List.mem_range.1 hk
    refine ⟨UInt64.ofNat k, ?_, rfl⟩
    rw [UInt64.lt_iff_toNat_lt,
      UInt64.toNat_ofNat_of_lt' (by exact Nat.lt_trans hlt counter.toNat_lt)]
    exact hlt
  · rintro ⟨k, hk, rfl⟩
    refine ⟨k.toNat, List.mem_range.2 (UInt64.lt_iff_toNat_lt.1 hk), ?_⟩
    rw [UInt64.ofNat_toNat]

/-- An identifier is no other text with the suffix of files. -/
theorem encode_ne_append_suffix (codec : Codec) (counter : UInt64) (text : String) :
    codec.encode counter ≠ text ++ Generator.fileSuffix := by
  intro heq
  have hdot : '.' ∈ (codec.encode counter).toList := by
    rw [heq, String.toList_append, List.mem_append]
    exact Or.inr (by decide)
  exact not_mem_encode (by decide) counter hdot

end Codec

/-! ## What used up an identifier

  The history is read by recursion, newest event first, and each list grows at its end. -/

/-- The name of the entry at a place. -/
def Path.lastName (place : Place) : String := place.headD ""

@[simp]
theorem Path.lastName_cons (name : String) (place : Place) : lastName (name :: place) = name := rfl

/-- The name of an entry is the same wherever the places are counted from. -/
theorem Path.lastName_append {place top : Place} (h : place ≠ []) :
    lastName (place ++ top) = lastName place := by
  cases place with
  | nil => exact absurd rfl h
  | cons name parent => rfl

theorem Path.map_lastName_append {places : List Place} (h : ∀ place ∈ places, place ≠ [])
    (top : Place) :
    (places.map fun place => place ++ top).map lastName = places.map lastName := by
  rw [List.map_map]
  exact List.map_congr_left fun place hmem => lastName_append (h place hmem)

/-- The name of a file without the suffix. -/
def Generator.stem (file : String) : String :=
  String.ofList (file.toList.take (file.toList.length - fileSuffix.toList.length))

theorem Generator.stem_append (identifier : String) :
    stem (identifier ++ fileSuffix) = identifier := by
  simp [stem, String.toList_append]

namespace History

/-- The identifiers that the events used up, in order; a tag counts where it is first used. -/
def minted : History → List String
  | [] => []
  | .directory _ identifier :: before => minted before ++ [identifier]
  | .discarded identifier :: before => minted before ++ [identifier]
  | .file _ identifier _ :: before => minted before ++ [identifier]
  | .line _ tag :: before => if tag ∈ tags before then minted before else minted before ++ [tag]
  | .filled .. :: before => minted before

/-- The places of subdirectories, in order. -/
def directoryPlaces : History → List Place
  | [] => []
  | .directory parent identifier :: before => directoryPlaces before ++ [identifier :: parent]
  | _ :: before => directoryPlaces before

/-- The places of files, in order. -/
def filePlaces : History → List Place
  | [] => []
  | .file parent identifier _ :: before =>
    filePlaces before ++ [(identifier ++ Generator.fileSuffix) :: parent]
  | _ :: before => filePlaces before

/-- The identifiers of the entries: the names of subdirectories and the stems of files. -/
def named (history : History) : List String :=
  (directoryPlaces history).map Path.lastName ++
    (filePlaces history).map fun place => Generator.stem (Path.lastName place)

/-- The identifiers of slots that made nothing, in order. -/
def discarded : History → List String
  | [] => []
  | .discarded identifier :: before => discarded before ++ [identifier]
  | _ :: before => discarded before

/-- The number of slots of all complete directories at a depth. -/
def slotsAt (depth : Nat) : History → Nat
  | [] => 0
  | .filled _ there slots _ :: before =>
    slotsAt depth before + if there = depth then slots.toNat else 0
  | _ :: before => slotsAt depth before

theorem length_directoryPlaces (history : History) :
    (directoryPlaces history).length = directories history := by
  induction history with
  | nil => rfl
  | cons event before ih =>
    cases event <;> simp [directoryPlaces, directories, Event.directories, ih]

theorem length_filePlaces (history : History) : (filePlaces history).length = files history := by
  induction history with
  | nil => rfl
  | cons event before ih => cases event <;> simp [filePlaces, files, Event.files, ih]

/-- **What used up identifiers**: entries, tags and slots at the greatest depth, each its own.
    The order is that of the events on the one side and that of the kinds on the other, so this
    is a permutation. -/
theorem perm_minted (history : History) :
    (named history ++ tags history ++ discarded history).Perm (minted history) := by
  rw [List.perm_iff_count]
  intro identifier
  -- each event adds its identifier to one of the lists and to all that was used up
  induction history with
  | nil => rfl
  | cons event before ih =>
    simp only [named, List.count_append] at ih ⊢
    cases event with
    | line owner tag =>
      by_cases hold : tag ∈ tags before
      · simp only [minted, tags, directoryPlaces, filePlaces, discarded, if_pos hold]
        omega
      · simp only [minted, tags, directoryPlaces, filePlaces, discarded, if_neg hold,
          List.count_append]
        omega
    | directory parent name =>
      simp only [minted, tags, directoryPlaces, filePlaces, discarded, List.map_append,
        List.map_singleton, Path.lastName_cons, List.count_append]
      omega
    | file parent name content =>
      simp only [minted, tags, directoryPlaces, filePlaces, discarded, List.map_append,
        List.map_singleton, Path.lastName_cons, Generator.stem_append,
        List.count_append]
      omega
    | discarded name =>
      simp only [minted, tags, directoryPlaces, filePlaces, discarded, List.count_append]
      omega
    | filled place there slots count =>
      simp only [minted, tags, directoryPlaces, filePlaces, discarded]
      omega

/-- As many were used up as there are entries, tags and discarded slots. -/
theorem length_minted (history : History) :
    (minted history).length = directories history + files history + (tags history).length +
      (discarded history).length := by
  rw [← (perm_minted history).length_eq, List.length_append, List.length_append, named,
    List.length_append, List.length_map, List.length_map, length_directoryPlaces,
    length_filePlaces]

theorem mem_minted_of_mem_tags {history : History} {tag : String} (h : tag ∈ tags history) :
    tag ∈ minted history :=
  (perm_minted history).mem_iff.1 (by simp [h])

/-- A line puts its tag among the tags, if it was not there before. -/
theorem mem_tags_line {history : History} {file tag other : String} :
    other ∈ tags (.line file tag :: history) ↔ other ∈ tags history ∨ other = tag := by
  rw [tags]
  split
  · rename_i hold
    constructor
    · exact Or.inl
    · rintro (hother | rfl)
      · exact hother
      · exact hold
  · rw [List.mem_append, List.mem_singleton]

/-- The tags by first use are the tags of the lines. -/
theorem mem_tags_iff {history : History} {tag : String} :
    tag ∈ tags history ↔ tag ∈ (lines history).map Prod.snd := by
  induction history with
  | nil => rfl
  | cons event before ih =>
    cases event with
    | line owner used => simp [mem_tags_line, lines, Event.line?, ih]
    | directory parent identifier => simp [tags, lines, Event.line?, ih]
    | discarded identifier => simp [tags, lines, Event.line?, ih]
    | file parent identifier content => simp [tags, lines, Event.line?, ih]
    | filled place there slots files => simp [tags, lines, Event.line?, ih]

/-- Without tags in use there are no lines. -/
theorem lines_eq_nil_of_tags {history : History} (h : tags history = []) : lines history = [] := by
  refine List.eq_nil_iff_forall_not_mem.2 ?_
  intro line hline
  have htag : line.2 ∈ tags history := mem_tags_iff.2 (List.mem_map_of_mem hline)
  rw [h] at htag
  cases htag

/-! ## Entries by their events

  As long as entries are made at free places only, what is at a place is what the one event made
  that is about that place. -/

/-- Every entry was made at a place that was free. -/
def WellMade : History → Prop
  | [] => True
  | event :: before =>
    WellMade before ∧ ∀ place, event.place? = some place → entryAt before place = none

/-- What is there is the fixture directory or was made.  The induction is on the history: the
    newest event made it, or it was there before. -/
theorem exists_event_of_entryAt {history : History} {place : Place} {entry : Entry}
    (h : entryAt history place = some entry) :
    place = [] ∨ ∃ event ∈ history, event.place? = some place ∧ event.entry = entry := by
  induction history with
  | nil =>
    rw [entryAt] at h
    by_cases hplace : place = []
    · exact Or.inl hplace
    · rw [if_neg hplace] at h
      cases h
  | cons event before ih =>
    rw [entryAt] at h
    -- what was there stays, so the event counts only if there was nothing
    cases hbefore : entryAt before place with
    | some older =>
      rw [hbefore, Option.some_or] at h
      rcases ih (hbefore.trans h) with hplace | ⟨earlier, hmem, hearlier⟩
      · exact Or.inl hplace
      · exact Or.inr ⟨earlier, List.mem_cons_of_mem _ hmem, hearlier⟩
    | none =>
      rw [hbefore, Option.none_or] at h
      split at h
      · rename_i hevent
        exact Or.inr ⟨event, List.mem_cons_self .., hevent, Option.some.inj h⟩
      · cases h

/-- What was made at a free place is there. -/
theorem entryAt_of_mem {history : History} (hwell : WellMade history) {event : Event}
    (hmem : event ∈ history) {place : Place} (hplace : event.place? = some place) :
    entryAt history place = some event.entry := by
  induction history with
  | nil => cases hmem
  | cons first before ih =>
    rw [entryAt]
    rcases List.mem_cons.1 hmem with rfl | hbefore
    · rw [hwell.2 place hplace, if_pos hplace, Option.none_or]
    · rw [ih hwell.1 hbefore, Option.some_or]

theorem mem_directoryPlaces {history : History} {place : Place} :
    place ∈ directoryPlaces history ↔
      ∃ event ∈ history, event.place? = some place ∧ event.entry = .directory := by
  induction history with
  | nil => simp [directoryPlaces]
  | cons event before ih =>
    cases event <;> simp [directoryPlaces, ih, Event.place?, Event.entry, or_comm, eq_comm]

theorem mem_filePlaces {history : History} {place : Place} :
    place ∈ filePlaces history ↔
      ∃ event ∈ history, event.place? = some place ∧ ∃ content, event.entry = .file content := by
  induction history with
  | nil => simp [filePlaces]
  | cons event before ih =>
    cases event <;> simp [filePlaces, ih, Event.place?, Event.entry, or_comm, eq_comm]

theorem ne_nil_of_mem_directoryPlaces {history : History} :
    ∀ place ∈ directoryPlaces history, place ≠ [] := by
  intro place hmem
  obtain ⟨event, -, hplace, -⟩ := mem_directoryPlaces.1 hmem
  exact Event.ne_nil_of_place? hplace

theorem ne_nil_of_mem_filePlaces {history : History} :
    ∀ place ∈ filePlaces history, place ≠ [] := by
  intro place hmem
  obtain ⟨event, -, hplace, -⟩ := mem_filePlaces.1 hmem
  exact Event.ne_nil_of_place? hplace

/-- The name of a file is its stem with the suffix. -/
theorem lastName_eq_stem_append {history : History} {place : Place}
    (h : place ∈ filePlaces history) :
    Path.lastName place = Generator.stem (Path.lastName place) ++ Generator.fileSuffix := by
  obtain ⟨event, -, hplace, content, hentry⟩ := mem_filePlaces.1 h
  cases event with
  | file parent identifier bytes =>
    cases hplace
    rw [Path.lastName_cons, Generator.stem_append]
  | directory parent identifier => cases hentry
  | discarded identifier => cases hplace
  | line owner tag => cases hplace
  | filled there depth slots files => cases hplace

/-- The name of an entry is an identifier that was used up for it, perhaps with a suffix. -/
theorem mem_named_of_place? {history : History} {event : Event} (hmem : event ∈ history)
    {name : String} {parent : Place} (hplace : event.place? = some (name :: parent)) :
    ∃ identifier ∈ named history,
      name = identifier ∨ name = identifier ++ Generator.fileSuffix := by
  cases event with
  | directory there identifier =>
    have hdirectory : name :: parent ∈ directoryPlaces history :=
      mem_directoryPlaces.2 ⟨_, hmem, hplace, rfl⟩
    exact ⟨name, List.mem_append_left _ (List.mem_map_of_mem hdirectory), Or.inl rfl⟩
  | file there identifier content =>
    have hfile : name :: parent ∈ filePlaces history :=
      mem_filePlaces.2 ⟨_, hmem, hplace, content, rfl⟩
    cases hplace
    refine ⟨identifier, List.mem_append_right _ (List.mem_map.2 ⟨_, hfile, ?_⟩), Or.inr rfl⟩
    exact Generator.stem_append identifier
  | discarded identifier => cases hplace
  | line owner tag => cases hplace
  | filled place there slots count => cases hplace

end History

/-! ## The account

  It is an invariant of the growth: `start` opens it, and each lemma that ends in `Accounted` is
  what one event preserves. -/

/-- All identifiers below the counter are used up, but for those that are pending; the tags in the
    pool are those of the lines, and the lines are about files with identifiers; and the slots that
    made nothing are those of the complete directories at the greatest depth, and so many more.

    `pending` is the identifier that was taken and is not yet used, if there is one; `unfilled`
    counts the slots of the directory that is being filled at the greatest depth. -/
structure Accounted (codec : Codec) (depth : Nat) (pending : List String) (unfilled : Nat)
    (progress : Progress) : Prop where
  minted : progress.history.minted ++ pending = codec.identifiers progress.counter
  pool : progress.pool.toList = progress.history.tags
  members : ∀ tag, progress.pool.contains tag = true ↔ tag ∈ progress.history.tags
  discarded : progress.history.discarded.length = progress.history.slotsAt depth + unfilled
  wellMade : progress.history.WellMade
  owners : ∀ line ∈ progress.history.lines,
    ∃ counter, line.1 = codec.encode counter ++ Generator.fileSuffix

namespace Accounted

variable {codec : Codec} {depth unfilled : Nat} {pending : List String} {progress : Progress}

theorem start (codec : Codec) (depth : Nat) : Accounted codec depth [] 0 ⟨0, .empty, []⟩ where
  minted := rfl
  pool := rfl
  members := by
    intro tag
    simp [Pool.contains, Pool.empty, History.tags]
  discarded := rfl
  wellMade := trivial
  owners := by simp [History.lines]

/-- With nothing pending, all identifiers below the counter are used up. -/
theorem minted_eq (h : Accounted codec depth [] unfilled progress) :
    progress.history.minted = codec.identifiers progress.counter := by
  have hminted := h.minted
  rw [List.append_nil] at hminted
  exact hminted

/-- **No two entries or tags share an identifier**, for together they are a part of all that was
    used up, and there no identifier is twice. -/
theorem used_nodup (h : Accounted codec depth pending unfilled progress) :
    (progress.history.named ++ progress.history.tags).Nodup := by
  have hminted : (progress.history.minted ++ pending).Nodup := by
    rw [h.minted]
    exact Codec.identifiers_nodup _ _
  have hall : (progress.history.named ++ progress.history.tags ++
      progress.history.discarded).Nodup :=
    (History.perm_minted _).nodup_iff.2 hminted.of_append_left
  exact hall.of_append_left

/-- No directory was made twice. -/
theorem directoryPlaces_nodup (h : Accounted codec depth pending unfilled progress) :
    progress.history.directoryPlaces.Nodup :=
  h.used_nodup.of_append_left.of_append_left.of_map _

/-- No two files have one name, wherever they are. -/
theorem fileNames_nodup (h : Accounted codec depth pending unfilled progress) :
    (progress.history.filePlaces.map Path.lastName).Nodup := by
  have hstems : ((progress.history.filePlaces.map Path.lastName).map Generator.stem).Nodup := by
    rw [List.map_map]
    exact h.used_nodup.of_append_left.of_append_right
  exact hstems.of_map _

theorem filePlaces_nodup (h : Accounted codec depth pending unfilled progress) :
    progress.history.filePlaces.Nodup :=
  h.fileNames_nodup.of_map _

theorem size_pool (h : Accounted codec depth pending unfilled progress) :
    progress.pool.size = progress.history.tags.length := by
  rw [← h.pool]
  exact Array.length_toList.symm

/-- **No counter is lost**: entries, tags and slots of the greatest depth make up for all. -/
theorem counter_eq (h : Accounted codec depth [] unfilled progress) :
    progress.counter.toNat = progress.history.directories + progress.history.files +
      progress.pool.size + (progress.history.slotsAt depth + unfilled) := by
  have hlength := congrArg List.length h.minted_eq
  rw [History.length_minted, Codec.length_identifiers, h.discarded, ← h.size_pool] at hlength
  exact hlength.symm

/-- An identifier is taken from the counter. -/
theorem next (h : Accounted codec depth [] unfilled progress) (hnext : progress.counter + 1 ≠ 0) :
    Accounted codec depth [codec.encode progress.counter] unfilled
      { progress with counter := progress.counter + 1 } where
  minted := by
    show progress.history.minted ++ _ = _
    rw [Codec.identifiers_succ hnext, h.minted_eq]
  pool := h.pool
  members := h.members
  discarded := h.discarded
  wellMade := h.wellMade
  owners := h.owners

/-- What was used up, or is about to be, is an identifier. -/
theorem exists_counter (h : Accounted codec depth pending unfilled progress) {identifier : String}
    (hmem : identifier ∈ progress.history.minted ++ pending) :
    ∃ k < progress.counter, identifier = codec.encode k := by
  rw [h.minted] at hmem
  exact Codec.mem_identifiers.1 hmem

/-- **A pending identifier was not used before.** -/
theorem fresh {identifier : String} (h : Accounted codec depth [identifier] unfilled progress) :
    identifier ∉ progress.history.minted := by
  have hnodup := codec.identifiers_nodup progress.counter
  rw [← h.minted] at hnodup
  intro hmem
  exact List.disjoint_of_nodup_append hnodup hmem (List.mem_singleton_self identifier)

/-- **A pending identifier names no entry**, with the suffix of files or without.  An entry of
    that name was made with an identifier of its own; that one is equal to the pending one,
    which has not been used. -/
theorem entryAt_eq_none {counter : UInt64}
    (h : Accounted codec depth [codec.encode counter] unfilled progress) {name : String}
    (hname : name = codec.encode counter ∨ name = codec.encode counter ++ Generator.fileSuffix)
    (parent : Place) : progress.history.entryAt (name :: parent) = none := by
  by_contra hne
  obtain ⟨entry, hentry⟩ := Option.ne_none_iff_exists'.1 hne
  rcases History.exists_event_of_entryAt hentry with hnil | ⟨event, hevent, hplace, -⟩
  · cases hnil
  · obtain ⟨identifier, hnamed, hidentifier⟩ := History.mem_named_of_place? hevent hplace
    have hminted : identifier ∈ progress.history.minted :=
      (History.perm_minted _).mem_iff.1 (by simp [hnamed])
    obtain ⟨k, -, rfl⟩ := h.exists_counter (List.mem_append_left _ hminted)
    -- the dot tells names with the suffix from names without; otherwise the identifiers are equal
    have hsame : codec.encode k = codec.encode counter := by
      rcases hname with rfl | rfl <;> rcases hidentifier with heq | heq
      · exact heq.symm
      · exact absurd heq (codec.encode_ne_append_suffix _ _)
      · exact absurd heq.symm (codec.encode_ne_append_suffix _ _)
      · exact ((String.append_left_inj _).1 heq).symm
    rw [hsame] at hminted
    exact h.fresh hminted

/-- The entry that a pending identifier was for is made. -/
theorem named {counter : UInt64}
    (h : Accounted codec depth [codec.encode counter] unfilled progress) {event : Event}
    {parent : Place}
    (hevent : event = .directory parent (codec.encode counter) ∨
      ∃ content, event = .file parent (codec.encode counter) content) :
    Accounted codec depth [] unfilled { progress with history := event :: progress.history } := by
  have hminted := h.minted
  have howners := h.owners
  rcases hevent with rfl | ⟨content, rfl⟩
  · refine ⟨?_, h.pool, h.members, h.discarded, ⟨h.wellMade, ?_⟩, ?_⟩
    · rw [List.append_nil]
      exact hminted
    · rintro place hplace
      cases hplace
      exact h.entryAt_eq_none (Or.inl rfl) parent
    · simpa [History.lines, Event.line?] using howners
  · refine ⟨?_, h.pool, h.members, h.discarded, ⟨h.wellMade, ?_⟩, ?_⟩
    · rw [List.append_nil]
      exact hminted
    · rintro place hplace
      cases hplace
      exact h.entryAt_eq_none (Or.inr rfl) parent
    · simpa [History.lines, Event.line?] using howners

/-- The slot that a pending identifier was for makes nothing. -/
theorem discard {identifier : String} (h : Accounted codec depth [identifier] unfilled progress) :
    Accounted codec depth [] (unfilled + 1)
      { progress with history := .discarded identifier :: progress.history } where
  minted := by
    rw [List.append_nil]
    exact h.minted
  pool := h.pool
  members := h.members
  discarded := by
    have hdiscarded := h.discarded
    simp only [History.discarded, History.slotsAt, List.length_append, List.length_singleton]
    omega
  wellMade := ⟨h.wellMade, fun _ hplace => by cases hplace⟩
  owners := by
    have howners := h.owners
    simpa [History.lines, Event.line?] using howners

/-- A directory is complete; at the greatest depth this settles its slots. -/
theorem fill {place : Place} {there : Nat} {slots files : UInt64}
    (h : Accounted codec depth [] (if there = depth then slots.toNat else 0) progress) :
    Accounted codec depth [] 0
      { progress with history := .filled place there slots files :: progress.history } where
  minted := h.minted
  pool := h.pool
  members := h.members
  discarded := h.discarded
  wellMade := ⟨h.wellMade, fun _ hplace => by cases hplace⟩
  owners := by
    have howners := h.owners
    simpa [History.lines, Event.line?] using howners

/-- A tag that is a pending identifier, or one in use, gets a line.  The pool takes the tag
    first, and the account holds again once the line is in the history as well. -/
theorem line {counter : UInt64} {tag : String}
    (h : tag ∈ progress.history.tags ∧ Accounted codec depth [] unfilled progress ∨
      Accounted codec depth [tag] unfilled progress) :
    Accounted codec depth [] unfilled { progress with
      pool := (progress.pool.insert tag).2
      history :=
        .line (codec.encode counter ++ Generator.fileSuffix) tag :: progress.history } := by
  have howners : (∀ line ∈ progress.history.lines,
      ∃ counter, line.1 = codec.encode counter ++ Generator.fileSuffix) →
      ∀ line ∈ progress.history.lines ++ [(codec.encode counter ++ Generator.fileSuffix, tag)],
        ∃ counter, line.1 = codec.encode counter ++ Generator.fileSuffix := by
    intro howners line hline
    rcases List.mem_append.1 hline with hbefore | hlast
    · exact howners line hbefore
    · rw [List.mem_singleton.1 hlast]
      exact ⟨counter, rfl⟩
  rcases h with ⟨hold, h⟩ | h
  · -- a tag in use changes neither the pool nor what was used up
    have hcontains : progress.pool.contains tag = true := (h.members tag).2 hold
    have hpool : (progress.pool.insert tag).2 = progress.pool := by
      rw [Pool.insert, if_pos hcontains]
    rw [hpool]
    exact {
      minted := by
        rw [History.minted, if_pos hold]
        exact h.minted
      pool := by
        rw [History.tags, if_pos hold]
        exact h.pool
      members := by
        rw [History.tags, if_pos hold]
        exact h.members
      discarded := h.discarded
      wellMade := ⟨h.wellMade, fun _ hplace => by cases hplace⟩
      owners := howners h.owners }
  · -- a minted tag is fresh, so it is new to the pool and used up here
    have hnew : tag ∉ progress.history.tags := fun hold =>
      h.fresh (History.mem_minted_of_mem_tags hold)
    have hcontains : progress.pool.contains tag = false := by
      rw [Bool.eq_false_iff]
      exact fun hcontains => hnew ((h.members tag).1 hcontains)
    exact {
      minted := by
        rw [List.append_nil, History.minted, if_neg hnew]
        exact h.minted
      pool := by
        rw [History.tags, if_neg hnew, Pool.toList_insert, hcontains, if_neg (by simp), h.pool]
      members := by
        intro other
        rw [History.tags, if_neg hnew, Pool.contains_insert, h.members, List.mem_append,
          List.mem_singleton, or_comm]
      discarded := h.discarded
      wellMade := ⟨h.wellMade, fun _ hplace => by cases hplace⟩
      owners := howners h.owners }

end Accounted

end Thicket
