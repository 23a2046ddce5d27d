/-
  The record of a directory, entry by entry.

  What happens below an entry of a directory happens in one go: after the entry was made and before
  the next entry of that directory is.  So the record of a tree can be cut, for each of its
  directories, into the plantings of that directory and what comes before and behind
  (`Tree.exists_planted`).  The subdirectories' plantings come first.

  1. **Lines and their files** — a part of the record that has a line has the making of its file
     (`OwnsLines`), so a line is never told apart from its file.
  2. **Records of trees** make nothing but what is below their directory (`Tree.encloses`).
  3. **Plantings** — a file with its lines is one, and so is a slot with its tree.
  4. **The cut** is made by recursion along the tree.  The top directory is planted with its slots
     and leaves (`Branch.planted`).  A directory in one of the slots is cut in the slot's record,
     and the rest of the record goes before and behind (`Planted.extend`); it makes nothing in
     that directory, as slots have different names.
-/
import Thicket.Proofs.Sketch.Beds

namespace Thicket

/-! ## Lines and their files -/

/-- Every line among the events is about a file that was made among them. -/
def OwnsLines (events : List Event) : Prop :=
  ∀ file tag, Event.line file tag ∈ events → ∃ parent identifier content,
    Event.file parent identifier content ∈ events ∧ file = identifier ++ Generator.fileSuffix

namespace OwnsLines

theorem of_no_line {events : List Event} (h : ∀ file tag, Event.line file tag ∉ events) :
    OwnsLines events :=
  fun file tag hline => absurd hline (h file tag)

theorem append {first second : List Event} (h : OwnsLines first) (h' : OwnsLines second) :
    OwnsLines (first ++ second) := by
  intro file tag hline
  rcases List.mem_append.1 hline with hline | hline
  · obtain ⟨parent, identifier, content, hmem, hname⟩ := h file tag hline
    exact ⟨parent, identifier, content, List.mem_append_left _ hmem, hname⟩
  · obtain ⟨parent, identifier, content, hmem, hname⟩ := h' file tag hline
    exact ⟨parent, identifier, content, List.mem_append_right _ hmem, hname⟩

theorem cons {event : Event} {events : List Event} (h : ∀ file tag, event ≠ .line file tag)
    (h' : OwnsLines events) : OwnsLines (event :: events) := by
  intro file tag hline
  rcases List.mem_cons.1 hline with heq | hline
  · exact absurd heq.symm (h file tag)
  · obtain ⟨parent, identifier, content, hmem, hname⟩ := h' file tag hline
    exact ⟨parent, identifier, content, List.mem_cons_of_mem _ hmem, hname⟩

/-- What holds of every part holds of all of them in a row. -/
theorem flatMap {Part : Type} {parts : List Part} {partEvents : Part → List Event}
    (h : ∀ part ∈ parts, OwnsLines (partEvents part)) : OwnsLines (parts.flatMap partEvents) := by
  intro file tag hline
  obtain ⟨part, hpart, hline⟩ := List.mem_flatMap.1 hline
  obtain ⟨parent, identifier, content, hmem, hname⟩ := h part hpart file tag hline
  exact ⟨parent, identifier, content, List.mem_flatMap.2 ⟨part, hpart, hmem⟩, hname⟩

end OwnsLines

theorem Leaf.ownsLines (directory : Place) (leaf : Leaf) : OwnsLines (leaf.events directory) := by
  intro file tag hline
  refine ⟨directory, leaf.identifier, leaf.content, List.mem_cons_self .., ?_⟩
  rcases List.mem_cons.1 hline with heq | hline
  · cases heq
  · obtain ⟨used, -, heq⟩ := List.mem_map.1 hline
    cases heq
    rfl

/-! ## Records of trees -/

/-- What the events make is below the place. -/
def MakesBelow (place : Place) (events : List Event) : Prop :=
  ∀ event ∈ events, ∀ made, event.place? = some made → place <:+ made ∧ made ≠ place

/-- What is at an entry of a directory or below it is below the directory. -/
theorem below_cons {name : String} {place made : Place} (h : name :: place <:+ made) :
    place <:+ made ∧ made ≠ place := by
  refine ⟨(List.suffix_cons name place).trans h, ?_⟩
  rintro rfl
  have hlength := h.length_le
  rw [List.length_cons] at hlength
  omega

theorem Leaf.makesBelow (directory : Place) (leaf : Leaf) :
    MakesBelow directory (leaf.events directory) := by
  intro event hevent made hmade
  rcases List.mem_cons.1 hevent with rfl | hline
  · cases hmade
    exact below_cons List.suffix_rfl
  · obtain ⟨tag, -, rfl⟩ := List.mem_map.1 hline
    cases hmade

/-- The record of a branch makes what is below its directory and owns its lines, if the records of
    its slots do. -/
theorem Branch.encloses {Slot : Type} {slotEvents : Slot → List Event} {directory : Place}
    {depth : Nat} {branch : Branch Slot}
    (hbelow : ∀ slot ∈ branch.slots, MakesBelow directory (slotEvents slot))
    (howns : ∀ slot ∈ branch.slots, OwnsLines (slotEvents slot)) :
    MakesBelow directory (branch.events slotEvents directory depth) ∧
      OwnsLines (branch.events slotEvents directory depth) := by
  constructor
  · intro event hevent made hmade
    rw [events, List.mem_append, List.mem_append, List.mem_flatMap, List.mem_flatMap,
      List.mem_singleton] at hevent
    rcases hevent with (⟨slot, hslot, hevent⟩ | ⟨leaf, -, hevent⟩) | rfl
    · exact hbelow slot hslot event hevent made hmade
    · exact leaf.makesBelow directory event hevent made hmade
    · cases hmade
  · refine ((OwnsLines.flatMap howns).append (OwnsLines.flatMap fun leaf _ => ?_)).append
      (OwnsLines.of_no_line ?_)
    · exact leaf.ownsLines directory
    · intro file tag hline
      cases List.mem_singleton.1 hline

/-- The record of a tree makes what is below its directory and owns its lines.  The induction is
    on the levels: the directory of a slot is below the tree's own, and what its tree makes is
    below that. -/
theorem Tree.encloses (greatest levels : Nat) (directory : Place) (tree : Tree levels) :
    MakesBelow directory (tree.events greatest levels directory) ∧
      OwnsLines (tree.events greatest levels directory) := by
  induction levels generalizing directory with
  | zero =>
    refine Branch.encloses ?_ ?_
    · intro identifier _ event hevent made hmade
      obtain rfl := List.mem_singleton.1 hevent
      cases hmade
    · refine fun identifier _ => OwnsLines.of_no_line fun file tag hline => ?_
      cases List.mem_singleton.1 hline
  | succ levels ih =>
    refine Branch.encloses ?_ ?_
    · intro slot _ event hevent made hmade
      rcases List.mem_cons.1 hevent with rfl | hevent
      · cases hmade
        exact below_cons List.suffix_rfl
      · exact below_cons ((ih (slot.1 :: directory) slot.2).1 event hevent made hmade).1
    · intro slot _
      refine OwnsLines.cons (fun file tag heq => ?_) (ih (slot.1 :: directory) slot.2).2
      cases heq

/-! ## Plantings -/

/-- An entry of a directory, and what happened until the next entry of the directory was made.
    The event that made the entry is kept apart from the others, as it alone is at the entry's
    own place. -/
structure Planting where
  place : Place
  made : Event
  inner : List Event

namespace Planting

/-- What happened, in order. -/
def events (planting : Planting) : List Event := planting.made :: planting.inner

/-- The planting is one of an entry of the directory, and what it makes is below the entry. -/
structure In (directory : Place) (planting : Planting) : Prop where
  name : ∃ name, planting.place = name :: directory
  made : planting.made.place? = some planting.place
  below : MakesBelow planting.place planting.inner
  owns : OwnsLines planting.events

/-- Subdirectories come before files. -/
def Ordered (first second : Planting) : Prop :=
  second.made.entry = .directory → first.made.entry = .directory

end Planting

namespace Planting.In

variable {directory made : Place} {planting other : Planting}

/-- What a planting makes is at its place or below it. -/
theorem at_or_below (h : planting.In directory) {event : Event} (hevent : event ∈ planting.events)
    (hmade : event.place? = some made) : planting.place <:+ made := by
  rcases List.mem_cons.1 hevent with rfl | hinner
  · rw [h.made] at hmade
    cases hmade
    exact List.suffix_rfl
  · exact (h.below event hinner made hmade).1

/-- Two plantings of one directory make nothing at one place, unless both are at one place. -/
theorem place_eq (h : planting.In directory) (hother : other.In directory)
    (hbelow : planting.place <:+ made) (hbelow' : other.place <:+ made) :
    planting.place = other.place := by
  obtain ⟨name, hname⟩ := h.name
  obtain ⟨otherName, hotherName⟩ := hother.name
  have hlength : planting.place.length = other.place.length := by
    rw [hname, hotherName, List.length_cons, List.length_cons]
  exact (List.suffix_of_suffix_length_le hbelow hbelow' hlength.le).eq_of_length hlength

end Planting.In

/-- The record of a file as a planting. -/
def Leaf.planting (directory : Place) (leaf : Leaf) : Planting where
  place := leaf.name :: directory
  made := .file directory leaf.identifier leaf.content
  inner := leaf.tags.map (.line leaf.name)

/-- What happens behind the making of a file are its lines, and these make nothing. -/
theorem Leaf.planting_in (directory : Place) (leaf : Leaf) :
    (leaf.planting directory).In directory where
  name := ⟨leaf.name, rfl⟩
  made := rfl
  below := by
    intro event hevent made hmade
    obtain ⟨tag, -, rfl⟩ := List.mem_map.1 hevent
    cases hmade
  owns := leaf.ownsLines directory

/-- The record of a slot as a planting. -/
def Tree.slotPlanting (greatest levels : Nat) (directory : Place)
    (slot : String × Tree levels) : Planting where
  place := slot.1 :: directory
  made := .directory directory slot.1
  inner := slot.2.events greatest levels (slot.1 :: directory)

/-- What happens behind the making of a subdirectory is the record of its tree, and that is
    below it. -/
theorem Tree.slotPlanting_in (greatest levels : Nat) (directory : Place)
    (slot : String × Tree levels) :
    (slotPlanting greatest levels directory slot).In directory where
  name := ⟨slot.1, rfl⟩
  made := rfl
  below := (slot.2.encloses greatest levels (slot.1 :: directory)).1
  owns := by
    refine OwnsLines.cons (fun file tag heq => ?_)
      (slot.2.encloses greatest levels (slot.1 :: directory)).2
    cases heq

/-! ## The plantings of a directory

  At the greatest depth the slots make no entries, so what they use up comes before the
  plantings. -/

/-- The events are cut into the plantings of a directory and what comes before and behind.
    Lines must not be cut from their files, so what comes before and what comes behind own
    theirs. -/
structure Planted (events : List Event) (directory : Place) (before : List Event)
    (plantings : List Planting) (behind : List Event) : Prop where
  events_eq : events = before ++ plantings.flatMap Planting.events ++ behind
  plantings_in : ∀ planting ∈ plantings, planting.In directory
  /-- Before and behind nothing is made below the directory. -/
  outside : ∀ event ∈ before ++ behind, ∀ made, event.place? = some made →
    directory <:+ made → made = directory
  before_owns : OwnsLines before
  behind_owns : OwnsLines behind
  ordered : plantings.Pairwise Planting.Ordered

/-- More can happen before and behind, if nothing is made below the directory. -/
theorem Planted.extend {events before behind : List Event} {directory : Place}
    {plantings : List Planting} (h : Planted events directory before plantings behind)
    {front back : List Event} (hfront : OwnsLines front) (hback : OwnsLines back)
    (houtside : ∀ event ∈ front ++ back, ∀ made, event.place? = some made →
      directory <:+ made → made = directory) :
    Planted (front ++ events ++ back) directory (front ++ before) plantings (behind ++ back) where
  events_eq := by
    rw [h.events_eq]
    simp only [List.append_assoc]
  plantings_in := h.plantings_in
  outside := by
    intro event hevent
    simp only [List.mem_append] at hevent
    rcases hevent with (hevent | hevent) | hevent | hevent
    · exact houtside event (List.mem_append_left _ hevent)
    · exact h.outside event (List.mem_append_left _ hevent)
    · exact h.outside event (List.mem_append_right _ hevent)
    · exact houtside event (List.mem_append_right _ hevent)
  before_owns := hfront.append h.before_owns
  behind_owns := h.behind_owns.append hback
  ordered := h.ordered

/-- The top directory of a branch is planted with the plantings of its slots, if these make entries,
    and of its leaves. -/
theorem Branch.planted {Slot : Type} {slotEvents : Slot → List Event} {directory : Place}
    {depth : Nat} {branch : Branch Slot} {before : List Event} {slotPlantings : List Planting}
    (hslots : branch.slots.flatMap slotEvents =
      before ++ slotPlantings.flatMap Planting.events)
    (hbefore : ∀ event ∈ before, ∃ identifier, event = .discarded identifier)
    (hin : ∀ planting ∈ slotPlantings, planting.In directory ∧ planting.made.entry = .directory) :
    Planted (branch.events slotEvents directory depth) directory before
      (slotPlantings ++ branch.leaves.map (Leaf.planting directory))
      [.filled directory depth (UInt64.ofNat branch.slots.length)
        (UInt64.ofNat branch.leaves.length)] where
  events_eq := by
    have hleaves : (branch.leaves.map (Leaf.planting directory)).flatMap Planting.events =
        branch.leaves.flatMap (Leaf.events directory) := by
      rw [List.flatMap_map]
      rfl
    rw [events, hslots, List.flatMap_append, hleaves]
    simp only [List.append_assoc]
  plantings_in := by
    intro planting hmem
    rcases List.mem_append.1 hmem with hslot | hleaf
    · exact (hin planting hslot).1
    · obtain ⟨leaf, -, rfl⟩ := List.mem_map.1 hleaf
      exact leaf.planting_in directory
  outside := by
    intro event hevent made hmade
    rcases List.mem_append.1 hevent with hevent | hevent
    · obtain ⟨identifier, rfl⟩ := hbefore event hevent
      cases hmade
    · obtain rfl := List.mem_singleton.1 hevent
      cases hmade
  before_owns := by
    refine OwnsLines.of_no_line fun file tag hline => ?_
    obtain ⟨identifier, heq⟩ := hbefore _ hline
    cases heq
  behind_owns := by
    refine OwnsLines.of_no_line fun file tag hline => ?_
    cases List.mem_singleton.1 hline
  ordered := by
    rw [List.pairwise_append]
    refine ⟨?_, ?_, ?_⟩
    · exact List.pairwise_of_forall_mem_list fun first hfirst second _ _ => (hin first hfirst).2
    · rw [List.pairwise_map]
      refine List.pairwise_of_forall fun first second hdirectory => ?_
      cases hdirectory
    · exact fun first hfirst second _ _ => (hin first hfirst).2

theorem Event.place?_of_directoryPlace? {event : Event} {place : Place}
    (h : event.directoryPlace? = some place) : event.place? = some place := by
  cases event with
  | directory parent identifier => exact h
  | file parent identifier content => cases h
  | discarded identifier => cases h
  | line owner tag => cases h
  | filled there depth slots files => cases h

theorem map_sublist_flatMap_cons {α β : Type} (head : α → β) (tail : α → List β) (items : List α) :
    (items.map head).Sublist (items.flatMap fun item => head item :: tail item) := by
  induction items with
  | nil => exact List.Sublist.refl _
  | cons item items ih =>
    rw [List.map_cons, List.flatMap_cons, List.cons_append]
    exact (ih.trans (List.sublist_append_right _ _)).cons_cons _

/-- If no entry is made twice, none is made twice in a slot, and the slots have different names. -/
theorem Tree.slots_apart {greatest levels : Nat} {top : Place} {tree : Tree (levels + 1)}
    (hnodup : ((tree.events greatest (levels + 1) top).filterMap Event.place?).Nodup)
    {first rest : List (String × Tree levels)} {slot : String × Tree levels}
    (hslots : tree.slots = first ++ slot :: rest) :
    ((slot.2.events greatest levels (slot.1 :: top)).filterMap Event.place?).Nodup ∧
      ∀ other ∈ first ++ rest, other.1 ≠ slot.1 := by
  rw [events, Branch.filterMap_events (fun _ _ _ _ => rfl)] at hnodup
  have hall : (tree.slots.flatMap fun slot : String × Tree levels => (slot.1 :: top) ::
      (slot.2.events greatest levels (slot.1 :: top)).filterMap Event.place?).Nodup :=
    hnodup.of_append_left
  constructor
  · exact ((List.nodup_flatMap.1 hall).1 slot (by simp [hslots])).of_cons
  · have hnames := (map_sublist_flatMap_cons _ _ _).nodup hall
    rw [hslots, List.map_append, List.map_cons, List.nodup_middle, ← List.map_append,
      List.nodup_cons] at hnames
    intro other hmem hsame
    refine hnames.1 (List.mem_map.2 ⟨other, hmem, ?_⟩)
    rw [hsame]

/-- The record of a tree around the record of one of its slots.  The directory of the slot is
    made in front, so it belongs to what comes before the slot's plantings. -/
theorem Tree.events_split {greatest levels : Nat} {top : Place} {tree : Tree (levels + 1)}
    {first rest : List (String × Tree levels)} {slot : String × Tree levels}
    (hslots : tree.slots = first ++ slot :: rest) :
    tree.events greatest (levels + 1) top =
      ((first.map (slotPlanting greatest levels top)).flatMap Planting.events ++
          [.directory top slot.1]) ++
        slot.2.events greatest levels (slot.1 :: top) ++
        ((rest.map (slotPlanting greatest levels top)).flatMap Planting.events ++
          (tree.leaves.flatMap (Leaf.events top) ++
            [.filled top (greatest - (levels + 1)) (UInt64.ofNat tree.slots.length)
              (UInt64.ofNat tree.leaves.length)])) := by
  rw [events, Branch.events, hslots, List.flatMap_append, List.flatMap_cons,
    List.flatMap_map, List.flatMap_map]
  simp [Planting.events, slotPlanting]

/-- What happens in the slots before and behind a slot is not in its directory. -/
theorem Tree.outside_of_slots {greatest levels : Nat} {top directory made : Place}
    {slot other : String × Tree levels} (hother : other.1 ≠ slot.1)
    (hdirectory : slot.1 :: top <:+ directory) {event : Event}
    (hevent : event ∈ (slotPlanting greatest levels top other).events)
    (hmade : event.place? = some made) : ¬ directory <:+ made := by
  intro hbelow
  have hin := slotPlanting_in greatest levels top other
  have hsame : other.1 :: top = slot.1 :: top :=
    hin.place_eq (slotPlanting_in greatest levels top slot) (hin.at_or_below hevent hmade)
      (hdirectory.trans hbelow)
  exact hother (List.cons.inj hsame).1

/-- The top directory of a tree is planted.  With no levels left the slots come before all
    plantings, as they make nothing; with levels left each slot is a planting. -/
theorem Tree.planted_top (greatest levels : Nat) (top : Place) (tree : Tree levels) :
    ∃ before plantings behind,
      Planted (tree.events greatest levels top) top before plantings behind := by
  cases levels with
  | zero =>
    have hslots : tree.slots.flatMap (fun identifier => [Event.discarded identifier]) =
        tree.slots.map .discarded ++ [].flatMap Planting.events := by
      rw [List.flatMap_nil, List.append_nil, List.map_eq_flatMap]
    refine ⟨_, _, _, Branch.planted hslots ?_ (by simp)⟩
    intro event hevent
    obtain ⟨identifier, -, rfl⟩ := List.mem_map.1 hevent
    exact ⟨identifier, rfl⟩
  | succ levels =>
    have hslots : tree.slots.flatMap (fun slot : String × Tree levels =>
          .directory top slot.1 :: slot.2.events greatest levels (slot.1 :: top)) =
        [] ++ (tree.slots.map (slotPlanting greatest levels top)).flatMap Planting.events := by
      rw [List.nil_append, List.flatMap_map]
      rfl
    refine ⟨_, _, _, Branch.planted hslots (by simp) ?_⟩
    intro planting hmem
    obtain ⟨slot, -, rfl⟩ := List.mem_map.1 hmem
    exact ⟨slotPlanting_in greatest levels top slot, rfl⟩

/-- The records of slots own their lines. -/
theorem Tree.ownsLines_slots (greatest levels : Nat) (top : Place)
    (slots : List (String × Tree levels)) :
    OwnsLines ((slots.map (slotPlanting greatest levels top)).flatMap Planting.events) := by
  refine OwnsLines.flatMap fun planting hmem => ?_
  obtain ⟨slot, -, rfl⟩ := List.mem_map.1 hmem
  exact (slotPlanting_in greatest levels top slot).owns

/-- A directory that is planted in a slot of a tree is planted in the tree. -/
theorem Tree.planted_of_slot {greatest levels : Nat} {top directory : Place}
    {tree : Tree (levels + 1)} {first rest : List (String × Tree levels)}
    {slot : String × Tree levels} (hslots : tree.slots = first ++ slot :: rest)
    (hother : ∀ other ∈ first ++ rest, other.1 ≠ slot.1)
    (hinside : slot.1 :: top <:+ directory) {before behind : List Event}
    {plantings : List Planting}
    (h : Planted (slot.2.events greatest levels (slot.1 :: top)) directory before plantings
      behind) :
    ∃ early late,
      Planted (tree.events greatest (levels + 1) top) directory early plantings late := by
  rw [events_split hslots]
  refine ⟨_, _, h.extend ?_ ?_ ?_⟩
  · refine (ownsLines_slots greatest levels top first).append
      (OwnsLines.of_no_line fun file tag hline => ?_)
    cases List.mem_singleton.1 hline
  · refine (ownsLines_slots greatest levels top rest).append
      ((OwnsLines.flatMap fun leaf _ => leaf.ownsLines top).append
        (OwnsLines.of_no_line fun file tag hline => ?_))
    cases List.mem_singleton.1 hline
  · intro event hevent made hmade hbelow
    simp only [List.mem_append, List.mem_singleton, List.mem_flatMap, List.mem_map] at hevent
    rcases hevent with (⟨_, ⟨other, hmem, rfl⟩, hevent⟩ | rfl) |
      ⟨_, ⟨other, hmem, rfl⟩, hevent⟩ | ⟨leaf, -, hevent⟩ | rfl
    · exact absurd hbelow (outside_of_slots (hother other (by simp [hmem])) hinside hevent hmade)
    · cases hmade
      exact (hbelow.eq_of_length_le hinside.length_le).symm
    · exact absurd hbelow (outside_of_slots (hother other (by simp [hmem])) hinside hevent hmade)
    · rcases List.mem_cons.1 hevent with rfl | hline
      · cases hmade
        exact (hbelow.eq_of_length_le hinside.length_le).symm
      · obtain ⟨tag, -, rfl⟩ := List.mem_map.1 hline
        cases hmade
    · cases hmade

/-- **Every directory of a tree is planted**, if no entry of the tree is made twice.  The
    induction is on the levels, and follows the way from the top to the directory: it is the
    top, the directory of a slot, or in a slot. -/
theorem Tree.exists_planted {greatest levels : Nat} {top directory : Place} {tree : Tree levels}
    (hnodup : ((tree.events greatest levels top).filterMap Event.place?).Nodup)
    (hdirectory : directory = top ∨
      directory ∈ (tree.events greatest levels top).filterMap Event.directoryPlace?) :
    ∃ before plantings behind,
      Planted (tree.events greatest levels top) directory before plantings behind := by
  rcases hdirectory with rfl | hmade
  · exact planted_top greatest levels directory tree
  induction levels generalizing top with
  | zero =>
    rw [directoryPlaces_events_zero] at hmade
    cases hmade
  | succ levels ih =>
    rw [directoryPlaces_events_succ] at hmade
    obtain ⟨slot, hslot, hmem⟩ := List.mem_flatMap.1 hmade
    obtain ⟨first, rest, hslots⟩ := List.append_of_mem hslot
    obtain ⟨heach, hother⟩ := slots_apart hnodup hslots
    -- the directory is the slot's own, or it is in the slot
    rcases List.mem_cons.1 hmem with rfl | hinner
    · obtain ⟨before, plantings, behind, hplanted⟩ :=
        planted_top greatest levels (slot.1 :: top) slot.2
      obtain ⟨early, late, hall⟩ := planted_of_slot hslots hother List.suffix_rfl hplanted
      exact ⟨early, plantings, late, hall⟩
    · obtain ⟨event, hevent, hplace⟩ := List.mem_filterMap.1 hinner
      have hinside : slot.1 :: top <:+ directory :=
        ((slot.2.encloses greatest levels (slot.1 :: top)).1 event hevent directory
          (Event.place?_of_directoryPlace? hplace)).1
      obtain ⟨before, plantings, behind, hplanted⟩ := ih heach hinner
      obtain ⟨early, late, hall⟩ := planted_of_slot hslots hother hinside hplanted
      exact ⟨early, plantings, late, hall⟩

end Thicket
