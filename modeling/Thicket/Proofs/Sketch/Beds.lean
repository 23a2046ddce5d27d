/-
  The directories of a tree, one by one.

  A tree is laid out in beds, one for each directory, with the names of its subdirectories and with
  its leaves.  The order is that in which the directories are completed, so the subdirectories of a
  directory come before it.

  1. **Records** — the files and the lines of the tree's record are those of its beds, bed after bed
     (`Tree.files_events`, `Tree.lines_events`), for what shows of the leaves only is told in the
     same order in both (`Tree.filterMap_events_eq_beds`).  The places of the beds are the top and
     all places where the record makes a directory, each once (`Tree.places_beds`); here the orders
     differ, for a directory is made before it is filled, so these are permutations.
  2. **Histories** — what a history owes to its tree is collected in `LaidOut`.  Later results read
     only that: the shape of a fixture, its counts and the tags of its files are statements about a
     list of beds, with no recursion left in them.
-/
import Thicket.Proofs.Sketch.Minted
import Thicket.Proofs.Sketch.Tree

namespace Thicket

/-! ## Beds -/

/-- A directory of a tree. -/
structure Bed where
  place : Place
  subdirectories : List String
  leaves : List Leaf

namespace Bed

/-- The places of the subdirectories. -/
def directoryPlaces (bed : Bed) : List Place := bed.subdirectories.map fun name => name :: bed.place

/-- The places of the files, and what they hold. -/
def files (bed : Bed) : List (Place × ByteArray) :=
  bed.leaves.map fun leaf => (leaf.name :: bed.place, leaf.content)

/-- The lines about the files. -/
def lines (bed : Bed) : List (String × String) := bed.leaves.flatMap Leaf.lines

/-- The directory is such as the settings allow, in a tree whose deepest directories have so many
    names. -/
structure Keeps (settings : Settings) (deepest : Nat) (bed : Bed) : Prop where
  length_le : bed.place.length ≤ deepest
  inner : bed.place.length < deepest →
    1 ≤ bed.subdirectories.length ∧ bed.subdirectories.length ≤ settings.branchFactor.toNat
  last : bed.place.length = deepest → bed.subdirectories = []
  leaves_le : bed.leaves.length ≤ settings.maxFiles.toNat
  leaves : ∀ leaf ∈ bed.leaves, leaf.Keeps settings

end Bed

/-- The beds of the trees in the slots, and behind them the bed of the directory itself. -/
def Branch.beds {Slot : Type} (slotName? : Slot → Option String) (slotBeds : Slot → List Bed)
    (directory : Place) (branch : Branch Slot) : List Bed :=
  branch.slots.flatMap slotBeds ++
    [⟨directory, branch.slots.filterMap slotName?, branch.leaves⟩]

/-- The beds of a tree in a directory. -/
def Tree.beds : (levels : Nat) → Place → Tree levels → List Bed
  | 0, directory, tree => Branch.beds (fun _ : String => none) (fun _ => []) directory tree
  | levels + 1, directory, tree =>
    Branch.beds (fun slot : String × Tree levels => some slot.1)
      (fun slot => beds levels (slot.1 :: directory) slot.2) directory tree

/-! ## Records

  What is asked of a record is asked event by event, by a filter that maps: its lines, its
  files, the directories it makes.  Each is carried from a leaf to a branch, and by recursion to
  a tree. -/

namespace Event

/-- The place of the subdirectory that an event makes, if it makes one. -/
def directoryPlace? : Event → Option Place
  | directory parent identifier => some (identifier :: parent)
  | _ => none

/-- The place and the content of the file that an event makes, if it makes one. -/
def file? : Event → Option (Place × ByteArray)
  | file parent identifier content => some ((identifier ++ Generator.fileSuffix) :: parent, content)
  | _ => none

end Event

namespace Leaf

/-- The lines about a file are told when it is planted. -/
theorem lines_events (directory : Place) (leaf : Leaf) :
    (leaf.events directory).filterMap Event.line? = leaf.lines := by
  rw [events, List.filterMap_cons_none rfl, List.filterMap_map, lines, ← List.filterMap_eq_map]
  rfl

theorem files_events (directory : Place) (leaf : Leaf) :
    (leaf.events directory).filterMap Event.file? =
      [(leaf.name :: directory, leaf.content)] := by
  have hlines : (leaf.tags.map (Event.line leaf.name)).filterMap Event.file? = [] := by
    simp [List.filterMap_eq_nil_iff, Event.file?]
  show (leaf.name :: directory, leaf.content) :: _ = _
  rw [hlines]

theorem directoryPlaces_events (directory : Place) (leaf : Leaf) :
    (leaf.events directory).filterMap Event.directoryPlace? = [] := by
  simp [events, List.filterMap_eq_nil_iff, Event.directoryPlace?]

end Leaf

/-- What is to be seen in the record of a branch, if reports do not show. -/
theorem Branch.filterMap_events {Slot β : Type} {show? : Event → Option β}
    (hfilled : ∀ place depth slots files, show? (.filled place depth slots files) = none)
    (slotEvents : Slot → List Event) (directory : Place) (depth : Nat) (branch : Branch Slot) :
    (branch.events slotEvents directory depth).filterMap show? =
      (branch.slots.flatMap fun slot => (slotEvents slot).filterMap show?) ++
        branch.leaves.flatMap fun leaf => (leaf.events directory).filterMap show? := by
  rw [events, List.filterMap_append, List.filterMap_append, List.filterMap_flatMap,
    List.filterMap_flatMap, List.filterMap_cons_none (hfilled _ _ _ _), List.filterMap_nil,
    List.append_nil]

namespace Branch

variable {Slot : Type} {slotName? : Slot → Option String} {slotEvents : Slot → List Event}
  {slotBeds : Slot → List Bed} {directory : Place} {depth : Nat} {branch : Branch Slot}

/-- What shows of the leaves only is to be seen bed after bed, if it is so in the slots. -/
theorem filterMap_events_eq_beds {β : Type} {show? : Event → Option β}
    {leafShows : Place → Leaf → List β}
    (hfilled : ∀ place depth slots files, show? (.filled place depth slots files) = none)
    (hleaf : ∀ place leaf, (Leaf.events place leaf).filterMap show? = leafShows place leaf)
    (hslots : ∀ slot, (slotEvents slot).filterMap show? =
      (slotBeds slot).flatMap fun bed => bed.leaves.flatMap (leafShows bed.place)) :
    (branch.events slotEvents directory depth).filterMap show? =
      (branch.beds slotName? slotBeds directory).flatMap fun bed =>
        bed.leaves.flatMap (leafShows bed.place) := by
  rw [filterMap_events hfilled, beds, List.flatMap_append, List.flatMap_assoc]
  simp only [hleaf, hslots, List.flatMap_singleton]

/-- Reports and leaves make no directories. -/
theorem directoryPlaces_events :
    (branch.events slotEvents directory depth).filterMap Event.directoryPlace? =
      branch.slots.flatMap fun slot => (slotEvents slot).filterMap Event.directoryPlace? := by
  have hleaves : branch.leaves.flatMap
      (fun leaf => (leaf.events directory).filterMap Event.directoryPlace?) = [] := by
    rw [List.flatMap_eq_nil_iff]
    intro leaf _
    exact leaf.directoryPlaces_events directory
  rw [filterMap_events (fun _ _ _ _ => rfl), hleaves, List.append_nil]

/-- The bed of a directory stands behind the beds of its slots. -/
theorem places_beds : (branch.beds slotName? slotBeds directory).map Bed.place =
    (branch.slots.flatMap fun slot => (slotBeds slot).map Bed.place) ++ [directory] := by
  rw [beds, List.map_append, List.map_flatMap, List.map_singleton]

theorem directoryPlaces_beds :
    (branch.beds slotName? slotBeds directory).flatMap Bed.directoryPlaces =
      (branch.slots.flatMap fun slot => (slotBeds slot).flatMap Bed.directoryPlaces) ++
        (branch.slots.filterMap slotName?).map fun name => name :: directory := by
  rw [beds, List.flatMap_append, List.flatMap_assoc, List.flatMap_singleton]
  rfl

end Branch

namespace Tree

/-- What shows of the leaves only is to be seen bed after bed. -/
theorem filterMap_events_eq_beds {β : Type} {show? : Event → Option β}
    {leafShows : Place → Leaf → List β}
    (hfilled : ∀ place depth slots files, show? (.filled place depth slots files) = none)
    (hdirectory : ∀ parent identifier, show? (.directory parent identifier) = none)
    (hdiscarded : ∀ identifier, show? (.discarded identifier) = none)
    (hleaf : ∀ place leaf, (Leaf.events place leaf).filterMap show? = leafShows place leaf)
    (greatest levels : Nat) (directory : Place) (tree : Tree levels) :
    (tree.events greatest levels directory).filterMap show? =
      (tree.beds levels directory).flatMap fun bed =>
        bed.leaves.flatMap (leafShows bed.place) := by
  induction levels generalizing directory with
  | zero =>
    refine Branch.filterMap_events_eq_beds hfilled hleaf ?_
    intro identifier
    simp [hdiscarded]
  | succ levels ih =>
    refine Branch.filterMap_events_eq_beds hfilled hleaf ?_
    intro slot
    rw [List.filterMap_cons_none (hdirectory _ _)]
    exact ih _ _

/-- **The lines of a tree** are those of its beds. -/
theorem lines_events (greatest levels : Nat) (directory : Place) (tree : Tree levels) :
    (tree.events greatest levels directory).filterMap Event.line? =
      (tree.beds levels directory).flatMap Bed.lines :=
  filterMap_events_eq_beds (fun _ _ _ _ => rfl) (fun _ _ => rfl) (fun _ => rfl)
    Leaf.lines_events greatest levels directory tree

/-- **The files of a tree** are those of its beds. -/
theorem files_events (greatest levels : Nat) (directory : Place) (tree : Tree levels) :
    (tree.events greatest levels directory).filterMap Event.file? =
      (tree.beds levels directory).flatMap Bed.files := by
  have hfiles : ∀ bed : Bed,
      bed.leaves.flatMap (fun leaf => [(leaf.name :: bed.place, leaf.content)]) = bed.files :=
    fun _ => List.map_eq_flatMap.symm
  rw [filterMap_events_eq_beds (fun _ _ _ _ => rfl) (fun _ _ => rfl) (fun _ => rfl)
    Leaf.files_events]
  simp only [hfiles]

/-- A tree without levels has one bed. -/
theorem beds_zero (directory : Place) (tree : Tree 0) :
    tree.beds 0 directory = [⟨directory, [], tree.leaves⟩] := by
  rw [beds, Branch.beds, List.flatMap_eq_nil_iff.2 fun _ _ => rfl, List.filterMap_none]
  rfl

/-- A tree without levels makes no directory. -/
theorem directoryPlaces_events_zero (greatest : Nat) (directory : Place) (tree : Tree 0) :
    (tree.events greatest 0 directory).filterMap Event.directoryPlace? = [] := by
  rw [events, Branch.directoryPlaces_events]
  exact List.flatMap_eq_nil_iff.2 fun _ _ => rfl

/-- The record of a slot makes its directory, and then what its tree makes. -/
theorem directoryPlaces_events_succ (greatest levels : Nat) (directory : Place)
    (tree : Tree (levels + 1)) :
    (tree.events greatest (levels + 1) directory).filterMap Event.directoryPlace? =
      tree.slots.flatMap fun slot => (slot.1 :: directory) ::
        (slot.2.events greatest levels (slot.1 :: directory)).filterMap Event.directoryPlace? := by
  rw [events, Branch.directoryPlaces_events]
  rfl

/-- **The beds of a tree are at its top and at all places where it makes a directory.** -/
theorem places_beds (greatest levels : Nat) (directory : Place) (tree : Tree levels) :
    ((tree.beds levels directory).map Bed.place).Perm
      (directory ::
        (tree.events greatest levels directory).filterMap Event.directoryPlace?) := by
  induction levels generalizing directory with
  | zero =>
    rw [directoryPlaces_events_zero, beds_zero]
    exact List.Perm.refl _
  | succ levels ih =>
    rw [directoryPlaces_events_succ, beds, Branch.places_beds]
    refine (List.perm_append_singleton _ _).trans (List.Perm.cons _ ?_)
    exact List.Perm.flatMap_left _ fun slot _ => ih (slot.1 :: directory) slot.2

/-- **The directories that a tree makes** are the subdirectories in its beds. -/
theorem directoryPlaces_beds (greatest levels : Nat) (directory : Place) (tree : Tree levels) :
    ((tree.beds levels directory).flatMap Bed.directoryPlaces).Perm
      ((tree.events greatest levels directory).filterMap Event.directoryPlace?) := by
  induction levels generalizing directory with
  | zero =>
    rw [directoryPlaces_events_zero, beds_zero]
    exact List.Perm.refl _
  | succ levels ih =>
    rw [directoryPlaces_events_succ, beds, Branch.directoryPlaces_beds, List.filterMap_eq_map',
      List.map_map]
    -- the names of the slots stand together here and one by one in the record
    have hslots : (tree.slots.map fun slot => slot.1 :: directory) ++
        (tree.slots.flatMap fun slot =>
          (slot.2.beds levels (slot.1 :: directory)).flatMap Bed.directoryPlaces) |>.Perm
        (tree.slots.flatMap fun slot => (slot.1 :: directory) ::
          (slot.2.beds levels (slot.1 :: directory)).flatMap Bed.directoryPlaces) := by
      rw [List.map_eq_flatMap]
      exact List.flatMap_append_perm _ _ _
    refine List.perm_append_comm.trans (hslots.trans ?_)
    exact List.Perm.flatMap_left _ fun slot _ => (ih (slot.1 :: directory) slot.2).cons _

/-- **Every bed of a tree that the settings allow is allowed.** -/
theorem Keeps.beds {settings : Settings} {levels : Nat} {directory : Place} {tree : Tree levels}
    (h : tree.Keeps settings levels) {deepest : Nat}
    (hdeepest : directory.length + levels = deepest) :
    ∀ bed ∈ tree.beds levels directory, bed.Keeps settings deepest := by
  induction levels generalizing directory with
  | zero =>
    have hkeeps : Branch.Keeps settings (fun _ => True) tree := h
    intro bed hbed
    rw [beds_zero] at hbed
    obtain rfl := List.mem_singleton.1 hbed
    refine ⟨?_, ?_, fun _ => rfl, hkeeps.leaves_le, hkeeps.leaves⟩
    · show directory.length ≤ deepest
      omega
    · show directory.length < deepest → _
      omega
  | succ levels ih =>
    have hkeeps : Branch.Keeps settings
        (fun slot : String × Tree levels => slot.2.Keeps settings levels) tree := h
    intro bed hbed
    rw [Tree.beds, Branch.beds] at hbed
    rcases List.mem_append.1 hbed with hslot | hown
    · -- a bed in one of the slots is in a tree of one level less
      obtain ⟨slot, hslot, hbed⟩ := List.mem_flatMap.1 hslot
      refine ih (hkeeps.slots slot hslot) ?_ bed hbed
      rw [List.length_cons]
      omega
    · obtain rfl := List.mem_singleton.1 hown
      refine ⟨?_, fun _ => ?_, ?_, hkeeps.leaves_le, hkeeps.leaves⟩
      · show directory.length ≤ deepest
        omega
      · show 1 ≤ (tree.slots.filterMap fun slot => some slot.1).length ∧ _
        rw [List.filterMap_eq_map', List.length_map]
        exact ⟨hkeeps.one_le_slots, hkeeps.slots_le⟩
      · show directory.length = deepest → _
        omega

end Tree

/-! ## Histories

  The functions that a history has by recursion, newest event first, are filters of its record,
  oldest event first; in that form they meet those of the trees. -/

namespace History

/-- The places and the contents of the files, in order. -/
def contents (history : History) : List (Place × ByteArray) := history.reverse.filterMap Event.file?

theorem lines_eq_filterMap (history : History) :
    lines history = history.reverse.filterMap Event.line? := by
  induction history with
  | nil => rfl
  | cons event before ih =>
    rw [lines, ih, List.reverse_cons, List.filterMap_append]
    cases event <;> rfl

theorem directoryPlaces_eq_filterMap (history : History) :
    directoryPlaces history = history.reverse.filterMap Event.directoryPlace? := by
  induction history with
  | nil => rfl
  | cons event before ih =>
    rw [List.reverse_cons, List.filterMap_append, ← ih]
    cases event <;> simp [directoryPlaces, Event.directoryPlace?]

theorem contents_cons (event : Event) (before : History) :
    contents (event :: before) = contents before ++ event.file?.toList := by
  rw [contents, List.reverse_cons, List.filterMap_append, ← contents]
  cases event <;> rfl

theorem filePlaces_eq_map_contents (history : History) :
    filePlaces history = (contents history).map Prod.fst := by
  induction history with
  | nil => rfl
  | cons event before ih =>
    rw [contents_cons, List.map_append, ← ih]
    cases event <;> simp [filePlaces, Event.file?]

/-- The bytes of all files are counted. -/
theorem sum_size_contents (history : History) :
    ((contents history).map fun file => file.2.size).sum = payloadBytes history := by
  induction history with
  | nil => rfl
  | cons event before ih =>
    rw [contents_cons, List.map_append, List.sum_append, ih, payloadBytes]
    cases event <;> simp [Event.file?, Event.payloadBytes]

/-- A file that was made at a free place is there. -/
theorem entryAt_of_mem_contents {history : History} (hwell : WellMade history) {place : Place}
    {content : ByteArray} (h : (place, content) ∈ contents history) :
    entryAt history place = some (.file content) := by
  obtain ⟨event, hevent, hfile⟩ := List.mem_filterMap.1 h
  have hmem : event ∈ history := List.mem_reverse.1 hevent
  cases event with
  | file parent identifier bytes =>
    cases hfile
    exact entryAt_of_mem hwell hmem rfl
  | directory parent identifier => cases hfile
  | discarded identifier => cases hfile
  | line owner tag => cases hfile
  | filled there depth slots files => cases hfile

/-- A file that is there was made. -/
theorem mem_contents_of_entryAt {history : History} {place : Place} {content : ByteArray}
    (h : entryAt history place = some (.file content)) : (place, content) ∈ contents history := by
  rcases exists_event_of_entryAt h with rfl | ⟨event, hmem, hplace, hentry⟩
  · -- the fixture directory is no file
    rw [entryAt_nil] at h
    cases h
  · refine List.mem_filterMap.2 ⟨event, List.mem_reverse.2 hmem, ?_⟩
    cases event with
    | file parent identifier bytes =>
      cases hplace
      cases hentry
      rfl
    | directory parent identifier => cases hentry
    | discarded identifier => cases hplace
    | line owner tag => cases hplace
    | filled there depth slots files => cases hplace

/-- What is there is a directory or a file. -/
theorem directory_or_file_of_entryAt {history : History} {place : Place} {entry : Entry}
    (h : entryAt history place = some entry) :
    entry = .directory ∨ ∃ content, entry = .file content := by
  rcases exists_event_of_entryAt h with rfl | ⟨event, -, -, rfl⟩
  · rw [entryAt_nil] at h
    exact Or.inl (Option.some.inj h).symm
  · cases event with
    | file parent identifier content => exact Or.inr ⟨content, rfl⟩
    | directory parent identifier => exact Or.inl rfl
    | discarded identifier => exact Or.inl rfl
    | line owner tag => exact Or.inl rfl
    | filled there depth slots files => exact Or.inl rfl

/-- The subdirectories are the directories that were made. -/
theorem entryAt_eq_directory_iff {history : History} (hwell : WellMade history) {name : String}
    {place : Place} : entryAt history (name :: place) = some .directory ↔
      name :: place ∈ directoryPlaces history := by
  rw [mem_directoryPlaces]
  constructor
  · intro hentry
    exact (exists_event_of_entryAt hentry).resolve_left (List.cons_ne_nil _ _)
  · rintro ⟨event, hmem, hplace, hdirectory⟩
    rw [entryAt_of_mem hwell hmem hplace, hdirectory]

/-- What a history owes to the tree that it is the record of.  The beds say what is in each
    directory; the places and the subdirectories of the beds are the directories that were made,
    and the files and lines are those of the leaves, in order. -/
structure LaidOut (settings : Settings) (history : History) (beds : List Bed) : Prop where
  keeps : ∀ bed ∈ beds, bed.Keeps settings settings.depth.toNat
  places : (beds.map Bed.place).Perm ([] :: directoryPlaces history)
  directories : (beds.flatMap Bed.directoryPlaces).Perm (directoryPlaces history)
  contents : contents history = beds.flatMap Bed.files
  lines : lines history = beds.flatMap Bed.lines

namespace LaidOut

variable {settings : Settings} {history : History} {beds : List Bed} {bed other : Bed}
  (h : LaidOut settings history beds)

include h

/-- Every directory has a bed. -/
theorem exists_bed {place : Place} (hentry : entryAt history place = some .directory) :
    ∃ bed ∈ beds, bed.place = place := by
  have hmem : place ∈ [] :: directoryPlaces history := by
    rcases exists_event_of_entryAt hentry with rfl | hmade
    · exact List.mem_cons_self ..
    · exact List.mem_cons_of_mem _ (mem_directoryPlaces.2 hmade)
  exact List.mem_map.1 (h.places.mem_iff.2 hmem)

/-- The files are the leaves of the beds. -/
theorem mem_contents {place : Place} {content : ByteArray} :
    (place, content) ∈ History.contents history ↔
      ∃ bed ∈ beds, ∃ leaf ∈ bed.leaves,
        leaf.name :: bed.place = place ∧ leaf.content = content := by
  simp only [h.contents, List.mem_flatMap, Bed.files, List.mem_map, Prod.mk.injEq]

/-- The names of the files are those of all leaves, in order. -/
theorem map_lastName_filePlaces :
    (filePlaces history).map Path.lastName = (beds.flatMap Bed.leaves).map Leaf.name := by
  have hfiles : ∀ bed : Bed,
      (bed.files.map Prod.fst).map Path.lastName = bed.leaves.map Leaf.name := by
    intro bed
    rw [Bed.files, List.map_map, List.map_map]
    rfl
  rw [filePlaces_eq_map_contents, h.contents, List.map_flatMap, List.map_flatMap, List.map_flatMap]
  simp only [hfiles]

/-- The lines are those of all leaves, in order. -/
theorem lines_eq_flatMap :
    History.lines history = (beds.flatMap Bed.leaves).flatMap Leaf.lines := by
  rw [h.lines, List.flatMap_assoc]
  rfl

section Distinct

variable (hnodup : (directoryPlaces history).Nodup)

include hnodup

/-- **No two beds are at one place**, if no directory was made twice.  So what is known of the
    directory at a place is known of one bed. -/
theorem eq_of_place_eq (hbed : bed ∈ beds) (hother : other ∈ beds)
    (hplace : bed.place = other.place) : bed = other := by
  have htop : [] ∉ directoryPlaces history :=
    fun hmem => ne_nil_of_mem_directoryPlaces _ hmem rfl
  have hplaces : (beds.map Bed.place).Nodup :=
    h.places.nodup_iff.2 (List.nodup_cons.2 ⟨htop, hnodup⟩)
  exact List.inj_on_of_nodup_map hplaces hbed hother hplace

/-- The subdirectories of a bed are the directories that were made there. -/
theorem mem_subdirectories (hbed : bed ∈ beds) {name : String} :
    name ∈ bed.subdirectories ↔ name :: bed.place ∈ directoryPlaces history := by
  rw [← h.directories.mem_iff, List.mem_flatMap]
  constructor
  · intro hname
    exact ⟨bed, hbed, List.mem_map_of_mem hname⟩
  · rintro ⟨owner, howner, hmem⟩
    obtain ⟨made, hmade, heq⟩ := List.mem_map.1 hmem
    obtain ⟨rfl, hplace⟩ := List.cons.inj heq
    rw [h.eq_of_place_eq hnodup hbed howner hplace.symm]
    exact hmade

/-- No directory has two subdirectories of one name. -/
theorem subdirectories_nodup (hbed : bed ∈ beds) : bed.subdirectories.Nodup := by
  have hall : (beds.flatMap Bed.directoryPlaces).Nodup := h.directories.nodup_iff.2 hnodup
  exact ((List.nodup_flatMap.1 hall).1 bed hbed).of_map _

/-- A file in the directory of a bed is one of its leaves. -/
theorem mem_names_of_mem_contents (hbed : bed ∈ beds) {name : String} {content : ByteArray}
    (hmem : (name :: bed.place, content) ∈ History.contents history) :
    name ∈ bed.leaves.map Leaf.name := by
  obtain ⟨owner, howner, leaf, hleaf, heq, -⟩ := h.mem_contents.1 hmem
  obtain ⟨rfl, hplace⟩ := List.cons.inj heq
  rw [h.eq_of_place_eq hnodup hbed howner hplace.symm]
  exact List.mem_map_of_mem hleaf

end Distinct

end LaidOut

end History

/-- **The beds of a completed sketch** are such as the settings allow.  The sketch is the record
    of a tree, and the beds are the tree's. -/
theorem Generator.laidOut_of_sketchFill {σ : Type} [WordSource σ] {generator : Generator}
    (hvalid : generator.settings.fault? = none) {blocked : Place → Bool} {source : σ}
    {sketch : Sketch σ}
    (h : generator.sketchFill blocked generator.settings.depth.toNat [] ⟨⟨0, .empty, []⟩, source⟩ =
      .ok () sketch) :
    ∃ beds, sketch.history.LaidOut generator.settings beds := by
  obtain ⟨tree, hkeeps, hreverse⟩ := exists_tree_of_sketchFill hvalid h
  refine ⟨tree.beds _ [], ?_⟩
  exact {
    keeps := hkeeps.beds (Nat.zero_add _)
    places := by
      rw [History.directoryPlaces_eq_filterMap, hreverse]
      exact Tree.places_beds _ _ _ tree
    directories := by
      rw [History.directoryPlaces_eq_filterMap, hreverse]
      exact Tree.directoryPlaces_beds _ _ _ tree
    contents := by
      rw [History.contents, hreverse]
      exact Tree.files_events _ _ _ tree
    lines := by
      rw [History.lines_eq_filterMap, hreverse]
      exact Tree.lines_events _ _ _ tree }

end Thicket
