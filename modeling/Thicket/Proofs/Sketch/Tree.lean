/-
  The tree that a sketch grows.

  What a sketch adds to its history is not any list of events: it is the record of a tree, told in
  the order in which the tree was grown (`adds_sketchFill`).  So whatever is asked about a
  completed fixture can be asked about a tree, by recursion on its levels.

  1. **Trees** — a file with its tags is a `Leaf`; a `Branch` is what is in one directory, slots
     before leaves; a `Tree` is a branch whose slots hold trees of one level less.  The number of
     levels is part of the type, so a tree that is too deep cannot be written down.
  2. **Programs** — `Adds` says which events a program adds, whatever was there before.  It goes
     through sequences, repetitions and redrawing, and there is one lemma for each program: the
     lines of a file, a leaf, a branch, a tree.

  Each of these also says that what was added is such as the settings allow (`Keeps`), for the
  numbers that were drawn are known by the ranges they were drawn from.
-/
import Thicket.Proofs.Random.Gives
import Thicket.Proofs.Sketch.Contract
import Mathlib.Data.List.Perm.Basic

namespace Thicket

/-! ## Trees -/

/-- A file of a tree. -/
structure Leaf where
  identifier : String
  content : ByteArray
  /-- Its tags, in the order of their lines. -/
  tags : List String

/-- What is in one directory of a tree. -/
structure Branch (Slot : Type) where
  slots : List Slot
  leaves : List Leaf

/-- A tree with so many levels below its top.  A slot that can hold no tree is the identifier
    that it used up.  The type is defined by recursion on the levels, so functions on trees are
    too, with one case for the deepest directories and one for all above them. -/
@[reducible]
def Tree : Nat → Type
  | 0 => Branch String
  | levels + 1 => Branch (String × Tree levels)

namespace Leaf

/-- The name of the file. -/
def name (leaf : Leaf) : String := leaf.identifier ++ Generator.fileSuffix

/-- The lines of the ledger that are about the file. -/
def lines (leaf : Leaf) : List (String × String) := leaf.tags.map fun tag => (leaf.name, tag)

/-- What happens when the file is planted in a directory. -/
def events (directory : Place) (leaf : Leaf) : List Event :=
  .file directory leaf.identifier leaf.content :: leaf.tags.map (.line leaf.name)

/-- The file is such as the settings allow. -/
structure Keeps (settings : Settings) (leaf : Leaf) : Prop where
  size_le : leaf.content.size ≤ settings.maxFileSize.toNat
  nodup : leaf.tags.Nodup
  minTags_le : settings.minTags.toNat ≤ leaf.tags.length
  le_maxTags : leaf.tags.length ≤ settings.maxTags.toNat
  saturated : settings.isSaturated = true → leaf.tags.length ≤ 1

end Leaf

namespace Branch

variable {Slot : Type}

/-- What happens when a directory is filled: its slots, its files, and the report. -/
def events (slotEvents : Slot → List Event) (directory : Place) (depth : Nat)
    (branch : Branch Slot) : List Event :=
  branch.slots.flatMap slotEvents ++ branch.leaves.flatMap (Leaf.events directory) ++
    [.filled directory depth (UInt64.ofNat branch.slots.length)
      (UInt64.ofNat branch.leaves.length)]

/-- The directory is such as the settings allow, if its slots are. -/
structure Keeps (settings : Settings) (slotKeeps : Slot → Prop) (branch : Branch Slot) :
    Prop where
  one_le_slots : 1 ≤ branch.slots.length
  slots_le : branch.slots.length ≤ settings.branchFactor.toNat
  leaves_le : branch.leaves.length ≤ settings.maxFiles.toNat
  slots : ∀ slot ∈ branch.slots, slotKeeps slot
  leaves : ∀ leaf ∈ branch.leaves, leaf.Keeps settings

end Branch

namespace Tree

/-- What happens when a tree is grown in a directory, where trees have at most `greatest` levels. -/
def events (greatest : Nat) : (levels : Nat) → Place → Tree levels → List Event
  | 0, directory, tree =>
    Branch.events (fun identifier => [.discarded identifier]) directory greatest tree
  | levels + 1, directory, tree =>
    Branch.events (fun slot : String × Tree levels =>
      .directory directory slot.1 :: events greatest levels (slot.1 :: directory) slot.2)
      directory (greatest - (levels + 1)) tree

/-- The tree is such as the settings allow. -/
def Keeps (settings : Settings) : (levels : Nat) → Tree levels → Prop
  | 0, tree => Branch.Keeps settings (fun _ => True) tree
  | levels + 1, tree =>
    Branch.Keeps settings (fun slot : String × Tree levels => Keeps settings levels slot.2) tree

end Tree

/-! ## What programs add to the history

  That the pool knows of its own tags (`Pool.Sound`) is carried along, for at a saturated
  density the tagging ends where the pool is no longer empty. -/

/-- Where some tag is in use the pool is not empty. -/
def Pool.Sound (pool : Pool) : Prop := ∀ tag, pool.contains tag = true → pool.isEmpty = false

theorem Pool.sound_empty : Pool.empty.Sound := by
  intro tag h
  simp [Pool.empty, Pool.contains] at h

/-- Once a tag was put to use the pool is not empty. -/
theorem Pool.Sound.isEmpty_insert {pool : Pool} (h : pool.Sound) (tag : String) :
    (pool.insert tag).2.isEmpty = false := by
  rw [Pool.insert]
  by_cases hcontains : pool.contains tag = true
  · rw [if_pos hcontains]
    exact h tag hcontains
  · rw [if_neg hcontains]
    simp [Pool.isEmpty]

namespace Sketching

variable {σ α β : Type}

/-- Whenever the program comes to its end, it has added events of a kind to the history.  The
    events are told in order, oldest first, while the history has its newest event first; hence
    the reversal. -/
def Adds (program : Sketching σ α) (kind : α → List Event → Prop) : Prop :=
  ∀ sketch a after, sketch.pool.Sound → program sketch = .ok a after →
    after.pool.Sound ∧
      ∃ events, kind a events ∧ after.history = events.reverse ++ sketch.history

theorem adds_pure {kind : α → List Event → Prop} {a : α} (h : kind a []) :
    Adds (σ := σ) (pure a) kind := by
  intro sketch b after hsound hrun
  cases hrun
  exact ⟨hsound, [], h, rfl⟩

theorem Adds.bind {program : Sketching σ α} {next : α → Sketching σ β}
    {kind : α → List Event → Prop} {kind' : β → List Event → Prop} (h : Adds program kind)
    (h' : ∀ a first, kind a first → Adds (next a) fun b second => kind' b (first ++ second)) :
    Adds (program >>= next) kind' := by
  intro sketch b after hsound hrun
  cases hprogram : program sketch with
  | error halt middle =>
    rw [run_bind_of_error hprogram] at hrun
    cases hrun
  | ok a middle =>
    rw [run_bind_of_ok hprogram] at hrun
    obtain ⟨hsound', first, hfirst, hmiddle⟩ := h sketch a middle hsound hprogram
    obtain ⟨hsound'', second, hsecond, hafter⟩ := h' a first hfirst middle b after hsound' hrun
    refine ⟨hsound'', first ++ second, hsecond, ?_⟩
    rw [hafter, hmiddle, List.reverse_append, List.append_assoc]

theorem Adds.mono {program : Sketching σ α} {kind kind' : α → List Event → Prop}
    (h : Adds program kind) (hkind : ∀ a events, kind a events → kind' a events) :
    Adds program kind' := by
  intro sketch a after hsound hrun
  obtain ⟨hsound', events, hevents, hafter⟩ := h sketch a after hsound hrun
  exact ⟨hsound', events, hkind a events hevents, hafter⟩

/-- A loop adds what its rounds add, one after the other. -/
theorem Adds.times {Part : Type} {partEvents : Part → List Event} {good : Part → Prop}
    {step : Sketching σ Unit}
    (h : Adds step fun _ events => ∃ part, good part ∧ events = partEvents part) (count : Nat) :
    Adds (Making.times count step) fun _ events => ∃ parts : List Part, parts.length = count ∧
      (∀ part ∈ parts, good part) ∧ events = parts.flatMap partEvents := by
  induction count with
  | zero => exact adds_pure ⟨[], rfl, by simp, rfl⟩
  | succ count ih =>
    refine h.bind ?_
    rintro _ first ⟨part, hpart, rfl⟩
    refine ih.mono ?_
    rintro _ second ⟨parts, hlength, hparts, rfl⟩
    refine ⟨part :: parts, ?_, List.forall_mem_cons.2 ⟨hpart, hparts⟩, ?_⟩
    · rw [List.length_cons, hlength]
    · rw [List.flatMap_cons]

/-- Redrawing adds nothing if no attempt does. -/
theorem Adds.retry {good : α → Prop} {attempt : Sketching σ (Option α)}
    (h : Adds attempt fun answer events => events = [] ∧ ∀ a, answer = some a → good a)
    (patience : Nat) :
    Adds (Draw.retry (.mishap .stalled) attempt patience) fun a events =>
      events = [] ∧ good a := by
  induction patience with
  | zero =>
    intro sketch a after _ hrun
    cases hrun
  | succ patience ih =>
    refine h.bind ?_
    rintro answer first ⟨rfl, hanswer⟩
    cases answer with
    | none => exact ih
    | some a => exact adds_pure ⟨rfl, hanswer a rfl⟩

theorem Adds.get {next : Sketch σ → Sketching σ α} {kind : α → List Event → Prop}
    (h : ∀ seen, Adds (next seen) kind) : Adds (get >>= next) kind :=
  fun sketch a after hsound hrun => h sketch sketch a after hsound hrun

theorem Adds.ite {condition : Prop} [Decidable condition] {yes no : Sketching σ α}
    {kind : α → List Event → Prop} (hyes : Adds yes kind) (hno : Adds no kind) :
    Adds (if condition then yes else no) kind := by
  by_cases h : condition
  · rw [if_pos h]
    exact hyes
  · rw [if_neg h]
    exact hno

theorem adds_draw {draw : Draw σ α} {kind : α → Prop} (h : Draw.Gives draw kind) :
    Adds (Sketching.draw draw) fun a events => events = [] ∧ kind a := by
  intro sketch a after hsound hrun
  have hdraw := h sketch.source
  rw [Sketching.draw] at hrun
  cases hresult : draw sketch.source with
  | error reason source =>
    rw [hresult] at hrun
    cases hrun
  | ok b source =>
    rw [hresult] at hrun hdraw
    cases hrun
    exact ⟨hsound, [], ⟨rfl, hdraw⟩, rfl⟩

theorem adds_nextIdentifier (codec : Codec) :
    Adds (σ := σ) (nextIdentifier codec) fun _ events => events = [] := by
  intro sketch identifier after hsound hrun
  rw [nextIdentifier] at hrun
  split at hrun
  · cases hrun
  · cases hrun
    exact ⟨hsound, [], rfl, rfl⟩

theorem adds_note (event : Event) :
    Adds (σ := σ) (note event) fun _ events => events = [event] := by
  intro sketch _ after hsound hrun
  cases hrun
  exact ⟨hsound, [event], rfl, rfl⟩

/-- An entry is made, or the program does not come to its end. -/
theorem adds_make (blocked : Place → Bool) (task : Task) (place : Place) (event : Event) :
    Adds (σ := σ) (make blocked task place event) fun _ events => events = [event] := by
  intro sketch _ after hsound hrun
  rw [make] at hrun
  split at hrun
  · cases hrun
  · split at hrun
    · cases hrun
      exact ⟨hsound, [event], rfl, rfl⟩
    · cases hrun

end Sketching

/-! ## The programs

  From a pick to a whole tree, in the order in which they call each other. -/

namespace Generator

open Sketching

variable {σ : Type} [WordSource σ] {generator : Generator}

/-- Picking a tag leaves no trace in the history; what was minted for it shows with its line. -/
theorem adds_sketchPick (generator : Generator) :
    Adds (σ := σ) generator.sketchPick fun _ events => events = [] := by
  refine (adds_draw Draw.gives_unit).bind ?_
  rintro sample _ ⟨rfl, -⟩
  refine Adds.ite (Adds.get ?_) (adds_nextIdentifier _)
  intro seen
  refine (adds_draw (Draw.gives_choose _ _)).bind ?_
  rintro choice _ ⟨rfl, -⟩
  cases choice with
  | none => exact adds_nextIdentifier _
  | some tag => exact adds_pure rfl

/-- A tag is drawn until it is another one. -/
theorem adds_sketchPickOther (generator : Generator) (taken : List String) :
    Adds (σ := σ) (generator.sketchPickOther taken) fun tag events =>
      events = [] ∧ tag ∉ taken := by
  refine Adds.retry ?_ _
  refine (adds_sketchPick generator).bind ?_
  rintro tag _ rfl
  refine adds_pure ⟨rfl, ?_⟩
  intro other hother
  by_cases htaken : tag ∈ taken
  · rw [if_pos (by simpa using htaken)] at hother
    cases hother
  · rw [if_neg (by simpa using htaken)] at hother
    cases hother
    exact htaken

/-- **The lines of a file are added one after the other**, each with a tag that the file does
    not have; at a saturated density there is one at most.  The induction is on the tags that
    are still to be drawn, for any tags that the file has by then. -/
theorem adds_sketchTags (generator : Generator) (file : String) (count : Nat)
    (taken : List String) :
    Adds (σ := σ) (generator.sketchTags file count taken) fun _ events =>
      ∃ tags : List String, events = tags.map (.line file) ∧ tags.Nodup ∧
        (∀ tag ∈ tags, tag ∉ taken) ∧
        tags.length = if generator.settings.isSaturated then min count 1 else count := by
  induction count generalizing taken with
  | zero => exact adds_pure ⟨[], rfl, List.nodup_nil, by simp, by simp⟩
  | succ count ih =>
    refine (adds_sketchPickOther generator taken).bind ?_
    rintro tag _ ⟨rfl, htag⟩
    intro sketch _ after hsound hrun
    -- putting the tag to use and noting the line lead to one state, whose pool is not empty
    have hfilled : (sketch.pool.insert tag).2.isEmpty = false := hsound.isEmpty_insert tag
    have hsound' : (sketch.pool.insert tag).2.Sound := fun _ _ => hfilled
    have hrest : (if !(sketch.pool.insert tag).2.isEmpty && generator.settings.isSaturated
        then pure () else generator.sketchTags file count (tag :: taken))
        { sketch with
          pool := (sketch.pool.insert tag).2
          history := .line file tag :: sketch.history } = .ok () after := hrun
    rw [hfilled, Bool.not_false, Bool.true_and] at hrest
    by_cases hsaturated : generator.settings.isSaturated = true
    · rw [if_pos hsaturated] at hrest
      cases hrest
      refine ⟨hsound', [.line file tag], ⟨[tag], rfl, by simp, ?_, ?_⟩, rfl⟩
      · exact List.forall_mem_singleton.2 htag
      · rw [if_pos hsaturated, List.length_singleton]
        omega
    · rw [if_neg hsaturated] at hrest
      obtain ⟨hsound'', _, ⟨tags, rfl, hnodup, hother, hlength⟩, hhistory⟩ :=
        ih (tag :: taken) _ () after hsound' hrest
      have hfresh : tag ∉ tags := fun hmem => hother tag hmem (List.mem_cons_self ..)
      refine ⟨hsound'', .line file tag :: tags.map (.line file),
        ⟨tag :: tags, rfl, List.nodup_cons.2 ⟨hfresh, hnodup⟩, ?_, ?_⟩, ?_⟩
      · refine List.forall_mem_cons.2 ⟨htag, ?_⟩
        exact fun other hmem htaken => hother other hmem (List.mem_cons_of_mem _ htaken)
      · rw [if_neg hsaturated] at hlength ⊢
        rw [List.length_cons, hlength]
      · rw [hhistory, List.reverse_cons, List.append_assoc]
        rfl

/-- **The tags of a file are different from each other**, and as many as the settings ask for. -/
theorem adds_sketchTagging (hvalid : generator.settings.fault? = none) (file : String) :
    Adds (σ := σ) (generator.sketchTagging file) fun _ events =>
      ∃ tags : List String, events = tags.map (.line file) ∧ tags.Nodup ∧
        generator.settings.minTags.toNat ≤ tags.length ∧
        tags.length ≤ generator.settings.maxTags.toNat ∧
        (generator.settings.isSaturated = true → tags.length ≤ 1) := by
  have hrange := (Settings.bounds_of_valid hvalid).2
  refine (adds_draw (Draw.gives_between _ hrange)).bind ?_
  rintro count _ ⟨rfl, hleast, hmost⟩
  refine (adds_sketchTags generator file count.toNat []).mono ?_
  rintro _ events ⟨tags, rfl, hnodup, -, hlength⟩
  have hleast' : generator.settings.minTags.toNat ≤ count.toNat := UInt64.le_iff_toNat_le.1 hleast
  have hmost' : count.toNat ≤ generator.settings.maxTags.toNat := UInt64.le_iff_toNat_le.1 hmost
  have hone : generator.settings.minTags.toNat ≤ 1 := by
    rw [Settings.minTags]
    split
    · exact Nat.le_refl 1
    · exact Nat.zero_le 1
  refine ⟨tags, rfl, hnodup, ?_, ?_, ?_⟩
  · split at hlength
    · omega
    · omega
  · split at hlength
    · omega
    · omega
  · intro hsaturated
    rw [if_pos hsaturated] at hlength
    omega

/-- **Planting a file adds the record of a leaf.** -/
theorem adds_sketchFile (hvalid : generator.settings.fault? = none) (blocked : Place → Bool)
    (directory : Place) :
    Adds (σ := σ) (generator.sketchFile blocked directory) fun _ events =>
      ∃ leaf : Leaf, leaf.Keeps generator.settings ∧ events = leaf.events directory := by
  refine (adds_nextIdentifier _).bind ?_
  rintro identifier _ rfl
  have hrange : (0 : UInt64) ≤ generator.settings.maxFileSize := UInt64.zero_le
  refine (adds_draw (Draw.gives_between _ hrange)).bind ?_
  rintro length _ ⟨rfl, -, hlength⟩
  refine (adds_draw (Draw.gives_bytes _)).bind ?_
  rintro payload _ ⟨rfl, hpayload⟩
  refine (adds_make _ _ _ _).bind ?_
  rintro _ _ rfl
  refine (adds_sketchTagging hvalid _).mono ?_
  rintro _ _ ⟨tags, rfl, hnodup, hleast, hmost, hsaturated⟩
  have hsize : payload.size ≤ generator.settings.maxFileSize.toNat := by
    rw [hpayload]
    exact UInt64.le_iff_toNat_le.1 hlength
  exact ⟨⟨identifier, payload, tags⟩, ⟨hsize, hnodup, hleast, hmost, hsaturated⟩, rfl⟩

/-- **Filling a directory adds the record of a branch**, whatever its slots add. -/
theorem adds_sketchFillWith {Slot : Type} {slotEvents : Slot → List Event}
    {slotKeeps : Slot → Prop} (hvalid : generator.settings.fault? = none)
    (blocked : Place → Bool) (directory : Place) (depth : Nat) {slot : Sketching σ Unit}
    (hslot : Adds slot fun _ events => ∃ part, slotKeeps part ∧ events = slotEvents part) :
    Adds (σ := σ) (generator.sketchFillWith blocked directory depth slot) fun _ events =>
      ∃ branch : Branch Slot, branch.Keeps generator.settings slotKeeps ∧
        events = branch.events slotEvents directory depth := by
  have hbranches := (Settings.bounds_of_valid hvalid).1
  refine (adds_draw (Draw.gives_between _ hbranches)).bind ?_
  rintro slots _ ⟨rfl, hleast, hmost⟩
  refine (hslot.times slots.toNat).bind ?_
  rintro _ _ ⟨parts, hparts, hkeeps, rfl⟩
  have hrange : (0 : UInt64) ≤ generator.settings.maxFiles := UInt64.zero_le
  refine (adds_draw (Draw.gives_between _ hrange)).bind ?_
  rintro files _ ⟨rfl, -, hfiles⟩
  refine ((adds_sketchFile hvalid blocked directory).times files.toNat).bind ?_
  rintro _ _ ⟨leaves, hleaves, hkeeps', rfl⟩
  refine (adds_note _).mono ?_
  rintro _ _ rfl
  rw [UInt64.le_iff_toNat_le, UInt64.toNat_one] at hleast
  rw [UInt64.le_iff_toNat_le] at hmost hfiles
  refine ⟨⟨parts, leaves⟩, ⟨?_, ?_, ?_, hkeeps, hkeeps'⟩, ?_⟩
  · show 1 ≤ parts.length
    omega
  · show parts.length ≤ _
    omega
  · show leaves.length ≤ _
    omega
  · -- the report tells of as many as there are
    show _ = parts.flatMap slotEvents ++ leaves.flatMap (Leaf.events directory) ++ [_]
    rw [hparts, hleaves, UInt64.ofNat_toNat, UInt64.ofNat_toNat]
    simp

/-- **Growing adds the record of a tree** that is such as the settings allow.  A slot adds an
    identifier where no level is left, and otherwise a directory and, by induction, the record
    of a tree of one level less. -/
theorem adds_sketchFill (hvalid : generator.settings.fault? = none) (blocked : Place → Bool)
    (levels : Nat) (directory : Place) :
    Adds (σ := σ) (generator.sketchFill blocked levels directory) fun _ events =>
      ∃ tree : Tree levels, tree.Keeps generator.settings levels ∧
        events = tree.events generator.settings.depth.toNat levels directory := by
  -- by the levels that may be added; with none left a slot is an identifier
  induction levels generalizing directory with
  | zero =>
    refine adds_sketchFillWith hvalid blocked directory _ ?_
    refine (adds_nextIdentifier _).bind ?_
    rintro identifier _ rfl
    refine (adds_note _).mono ?_
    rintro _ _ rfl
    exact ⟨identifier, trivial, rfl⟩
  | succ levels ih =>
    refine adds_sketchFillWith hvalid blocked directory _ ?_
    refine (adds_nextIdentifier _).bind ?_
    rintro identifier _ rfl
    refine (adds_make _ _ _ _).bind ?_
    rintro _ _ rfl
    refine (ih (identifier :: directory)).mono ?_
    rintro _ _ ⟨child, hchild, rfl⟩
    exact ⟨(identifier, child), hchild, rfl⟩

/-- **A completed sketch is the record of a tree** that is such as the settings allow. -/
theorem exists_tree_of_sketchFill (hvalid : generator.settings.fault? = none)
    {blocked : Place → Bool} {source : σ} {sketch : Sketch σ}
    (h : generator.sketchFill blocked generator.settings.depth.toNat [] ⟨⟨0, .empty, []⟩, source⟩ =
      .ok () sketch) :
    ∃ tree : Tree generator.settings.depth.toNat,
      tree.Keeps generator.settings generator.settings.depth.toNat ∧
        sketch.history.reverse =
          tree.events generator.settings.depth.toNat generator.settings.depth.toNat [] := by
  obtain ⟨-, _, ⟨tree, hkeeps, rfl⟩, hhistory⟩ :=
    adds_sketchFill hvalid blocked _ [] _ () sketch Pool.sound_empty h
  exact ⟨tree, hkeeps, by rw [hhistory, List.append_nil, List.reverse_reverse]⟩

end Generator

end Thicket
