/-
  A sketch is refused an entry between files only.

  While a file is being tagged no entry is made, so nothing can be refused there; the source alone
  can end the tagging early (`Quiet`).  Whoever comes to a refusal therefore finds whole files:
  each has the content that was drawn for it and all its lines (`Whole`).  That is carried through
  the growth, up to the places where it may be refused (`keepsWhole_sketchFill`).

  1. **Quiet programs** lead the source on and are refused nothing; picking and tagging are such.
  2. **Whole files** are told as a list of leaves with their directories, in the order in which they
     were planted.  Nothing but the record of a leaf makes the list longer (`Whole.plant`).
  3. **Programs** — a file is made with a content that was drawn just before (`Supplied`), and
     tagging makes it whole (`meets_sketchTagging`).  Between the two the files are not whole, and
     there only the source can end the growth.

  Of a sketch that the source ends nothing is said: it may have ended in the middle of a file.
-/
import Thicket.Proofs.Random.Onward
import Thicket.Proofs.Sketch.Beds

namespace Thicket

open WordSource (Reaches)

variable {σ α β : Type} [WordSource σ]

/-! ## Programs that only the source ends

  Being led on is known from any start, so that a sequence is led on from the start of its first
  part. -/

/-- The program leads the source on, and nothing but a draw can end it early. -/
def Sketching.Quiet (program : Sketching σ α) : Prop :=
  ∀ start, Meets (fun sketch => Reaches start sketch.source) program
    (fun _ sketch => Reaches start sketch.source) fun halt _ => ∃ reason, halt = .mishap reason

namespace Sketching

theorem quiet_pure (a : α) : Quiet (σ := σ) (pure a) :=
  fun _ => meets_pure fun _ h => h

theorem Quiet.bind {program : Sketching σ α} {next : α → Sketching σ β} (h : Quiet program)
    (h' : ∀ a, Quiet (next a)) : Quiet (program >>= next) :=
  fun start => (h start).bind fun a => h' a start

theorem Quiet.get {next : Sketch σ → Sketching σ α} (h : ∀ seen, Quiet (next seen)) :
    Quiet (get >>= next) :=
  fun start => meets_get fun seen => (h seen start).of_pre fun _ hpre => hpre.1

theorem Quiet.ite {condition : Prop} [Decidable condition] {yes no : Sketching σ α}
    (hyes : Quiet yes) (hno : Quiet no) : Quiet (if condition then yes else no) :=
  fun start => meets_ite (hyes start) (hno start)

theorem Quiet.retry {attempt : Sketching σ (Option α)} (h : Quiet attempt) (patience : Nat) :
    Quiet (Draw.retry (.mishap .stalled) attempt patience) := by
  induction patience with
  | zero => exact fun _ _ _ => ⟨.stalled, rfl⟩
  | succ patience ih =>
    refine h.bind ?_
    intro answer
    cases answer with
    | none => exact ih
    | some a => exact quiet_pure a

omit [WordSource σ] in
/-- What is known after a draw: the draw was made from the source as it was before. -/
theorem meets_draw {pre : Sketch σ → Prop} {halts : Halt → Sketch σ → Prop}
    (hmishap : ∀ reason sketch, halts (.mishap reason) sketch) (draw : Draw σ α) :
    Meets pre (Sketching.draw draw) (fun a after =>
      ∃ source, pre { after with source } ∧ draw source = .ok a after.source) halts := by
  intro sketch hpre
  rw [Sketching.draw]
  cases hresult : draw sketch.source with
  | ok a source => exact ⟨sketch.source, hpre, hresult⟩
  | error reason source => exact hmishap reason _

theorem quiet_draw {draw : Draw σ α} (h : draw.Onward) : Quiet (Sketching.draw draw) := by
  intro start sketch hpre
  rw [Sketching.draw]
  cases hresult : draw sketch.source with
  | ok a source => exact Relation.ReflTransGen.trans hpre (h.reaches hresult)
  | error reason source => exact ⟨reason, rfl⟩

/-- At the last counter the program stalls, which is a mishap; the source is where it was either
    way. -/
theorem quiet_nextIdentifier (codec : Codec) : Quiet (σ := σ) (nextIdentifier codec) := by
  intro start sketch hpre
  rw [nextIdentifier]
  by_cases hlast : sketch.counter + 1 = 0
  · rw [if_pos hlast]
    exact ⟨.stalled, rfl⟩
  · rw [if_neg hlast]
    exact hpre

end Sketching

namespace Generator

open Sketching

variable {generator : Generator}

theorem quiet_sketchPick (generator : Generator) : Quiet (σ := σ) generator.sketchPick := by
  refine (quiet_draw Draw.onward_unit).bind ?_
  intro sample
  refine Quiet.ite (Quiet.get ?_) (quiet_nextIdentifier _)
  intro seen
  refine (quiet_draw (Draw.onward_choose _ _)).bind ?_
  intro choice
  cases choice with
  | none => exact quiet_nextIdentifier _
  | some tag => exact quiet_pure tag

theorem quiet_sketchTags (generator : Generator) (file : String) (count : Nat)
    (taken : List String) : Quiet (σ := σ) (generator.sketchTags file count taken) := by
  induction count generalizing taken with
  | zero => exact quiet_pure ()
  | succ count ih =>
    have hpick : Quiet (σ := σ) (generator.sketchPickOther taken) :=
      ((quiet_sketchPick generator).bind fun _ => quiet_pure _).retry _
    have huse : ∀ tag, Quiet (σ := σ) (useTag tag) := fun _ _ => meets_modify fun _ h => h
    have hnote : ∀ event, Quiet (σ := σ) (note event) := fun _ _ => meets_modify fun _ h => h
    refine hpick.bind fun tag => (huse tag).bind fun _ => (hnote _).bind fun _ => ?_
    exact Quiet.get fun seen => Quiet.ite (quiet_pure ()) (ih _)

/-- **Tagging is ended early by the source only.** -/
theorem quiet_sketchTagging (generator : Generator) (file : String) :
    Quiet (σ := σ) (generator.sketchTagging file) :=
  (quiet_draw (Draw.onward_between _ _ _)).bind fun _ => quiet_sketchTags generator file _ _

/-! ## Whole files

  A content is known by the way it came from the source: a length was drawn, and then as many
  bytes. -/

/-- The content was drawn on the way from one state of the source to another: first a length,
    and then as many bytes.  The states between are named, so that whoever has the source can
    draw the content again. -/
def Drawn (generator : Generator) (start now : σ) (content : ByteArray) : Prop :=
  ∃ source middle after length, Reaches start source ∧
    Draw.between generator.patience 0 generator.settings.maxFileSize source = .ok length middle ∧
    Draw.bytes length.toNat middle = .ok content after ∧ content.size = length.toNat ∧
    Reaches after now

/-- Where the source is led on, the content was drawn on the longer way. -/
theorem Drawn.onward {start now later : σ} {content : ByteArray}
    (h : generator.Drawn start now content) (hlater : Reaches now later) :
    generator.Drawn start later content := by
  obtain ⟨source, middle, after, length, hsource, hlength, hbytes, hsize, hnow⟩ := h
  exact ⟨source, middle, after, length, hsource, hlength, hbytes, hsize, hnow.trans hlater⟩

/-- The files of the sketch are the given leaves in their directories.  Each is such as the settings
    allow, was drawn since the start, and has all its lines. -/
structure Whole (generator : Generator) (start : σ) (leaves : List (Place × Leaf))
    (sketch : Sketch σ) : Prop where
  sound : sketch.pool.Sound
  reached : Reaches start sketch.source
  contents : sketch.history.contents =
    leaves.map fun leaf => (leaf.2.name :: leaf.1, leaf.2.content)
  lines : sketch.history.lines = leaves.flatMap fun leaf => leaf.2.lines
  keeps : ∀ leaf ∈ leaves, leaf.2.Keeps generator.settings
  drawn : ∀ leaf ∈ leaves, generator.Drawn start sketch.source leaf.2.content

/-- All files of the sketch are whole. -/
def AllWhole (generator : Generator) (start : σ) (sketch : Sketch σ) : Prop :=
  ∃ leaves, generator.Whole start leaves sketch

/-- A sketch that is refused an entry has whole files; of one that the source ends nothing is
    said. -/
def RefusedWhole (generator : Generator) (start : σ) : Halt → Sketch σ → Prop
  | .refused .., sketch => generator.AllWhole start sketch
  | .mishap _, _ => True

/-- Whole files are kept, and where the program is refused an entry there are whole files. -/
def KeepsWhole (generator : Generator) (program : Sketching σ α) : Prop :=
  ∀ start, Meets (generator.AllWhole start) program (fun _ => generator.AllWhole start)
    (generator.RefusedWhole start)

variable {start : σ} {leaves : List (Place × Leaf)} {sketch : Sketch σ}

theorem whole_start (generator : Generator) (source : σ) :
    generator.Whole source [] (⟨⟨0, .empty, []⟩, source⟩ : Sketch σ) where
  sound := Pool.sound_empty
  reached := Relation.ReflTransGen.refl
  contents := rfl
  lines := rfl
  keeps := by simp
  drawn := by simp

/-- Whole files stay so when the source is led on. -/
theorem Whole.onward {source : σ} (h : generator.Whole start leaves sketch)
    (hsource : Reaches sketch.source source) :
    generator.Whole start leaves { sketch with source } where
  sound := h.sound
  reached := Relation.ReflTransGen.trans h.reached hsource
  contents := h.contents
  lines := h.lines
  keeps := h.keeps
  drawn := fun leaf hleaf => (h.drawn leaf hleaf).onward hsource

/-- Events that make no file and add no line leave the files whole. -/
theorem Whole.note (h : generator.Whole start leaves sketch) {event : Event}
    (hfile : event.file? = none) (hline : event.line? = none) :
    generator.Whole start leaves { sketch with history := event :: sketch.history } where
  sound := h.sound
  reached := h.reached
  contents := by
    rw [History.contents_cons, hfile, h.contents, Option.toList_none, List.append_nil]
  lines := by
    rw [History.lines, hline, h.lines, Option.toList_none, List.append_nil]
  keeps := h.keeps
  drawn := h.drawn

/-- With the record of a leaf there is one whole file more. -/
theorem Whole.plant {later : Sketch σ} {directory : Place} {leaf : Leaf}
    (h : generator.Whole start leaves sketch) (hsound : later.pool.Sound)
    (hkeeps : leaf.Keeps generator.settings)
    (hdrawn : generator.Drawn start later.source leaf.content)
    (hsource : Reaches sketch.source later.source)
    (hhistory : later.history = (leaf.events directory).reverse ++ sketch.history) :
    generator.Whole start (leaves ++ [(directory, leaf)]) later where
  sound := hsound
  reached := Relation.ReflTransGen.trans h.reached hsource
  contents := by
    rw [hhistory, History.contents, List.reverse_append, List.reverse_reverse,
      List.filterMap_append, leaf.files_events, ← History.contents, h.contents, List.map_append,
      List.map_singleton]
  lines := by
    rw [hhistory, History.lines_eq_filterMap, List.reverse_append, List.reverse_reverse,
      List.filterMap_append, leaf.lines_events, ← History.lines_eq_filterMap, h.lines,
      List.flatMap_append, List.flatMap_singleton]
  keeps := by
    intro other hother
    rcases List.mem_append.1 hother with hbefore | hlast
    · exact h.keeps other hbefore
    · rw [List.mem_singleton.1 hlast]
      exact hkeeps
  drawn := by
    intro other hother
    rcases List.mem_append.1 hother with hbefore | hlast
    · exact (h.drawn other hbefore).onward hsource
    · rw [List.mem_singleton.1 hlast]
      exact hdrawn

/-- The names of the files are those of the leaves, in order. -/
theorem Whole.map_lastName_filePlaces (h : generator.Whole start leaves sketch) :
    sketch.history.filePlaces.map Path.lastName = (leaves.map Prod.snd).map Leaf.name := by
  rw [History.filePlaces_eq_map_contents, h.contents, List.map_map, List.map_map, List.map_map]
  rfl

/-- The lines are those of the leaves, in order. -/
theorem Whole.lines_eq_flatMap (h : generator.Whole start leaves sketch) :
    sketch.history.lines = (leaves.map Prod.snd).flatMap Leaf.lines := by
  rw [h.lines, List.flatMap_map]

/-- Whatever file is there was drawn since the start. -/
theorem Whole.drawn_of_entryAt (h : generator.Whole start leaves sketch) {place : Place}
    {content : ByteArray} (hentry : sketch.history.entryAt place = some (.file content)) :
    generator.Drawn start sketch.source content := by
  have hmem := History.mem_contents_of_entryAt hentry
  rw [h.contents, List.mem_map] at hmem
  obtain ⟨leaf, hleaf, hcontent⟩ := hmem
  cases hcontent
  exact h.drawn leaf hleaf

/-! ## Programs that keep files whole

  Contracts whose condition is the same before and after.  At a refusal it holds as well; at a
  mishap nothing is promised. -/

theorem KeepsWhole.bind {program : Sketching σ α} {next : α → Sketching σ β}
    (h : generator.KeepsWhole program) (h' : ∀ a, generator.KeepsWhole (next a)) :
    generator.KeepsWhole (program >>= next) :=
  fun start => (h start).bind fun a => h' a start

theorem KeepsWhole.times {step : Sketching σ Unit} (h : generator.KeepsWhole step)
    (count : Nat) : generator.KeepsWhole (Making.times count step) := by
  induction count with
  | zero => exact fun _ => meets_pure fun _ hpre => hpre
  | succ count ih => exact h.bind fun _ => ih

/-- A draw leads the source on, and its mishaps are no refusals. -/
theorem keepsWhole_draw {draw : Draw σ α} (h : draw.Onward) :
    generator.KeepsWhole (Sketching.draw draw) := by
  rintro start sketch ⟨leaves, hwhole⟩
  rw [Sketching.draw]
  cases hresult : draw sketch.source with
  | ok a source => exact ⟨leaves, hwhole.onward (h.reaches hresult)⟩
  | error reason source => exact trivial

theorem keepsWhole_nextIdentifier (generator : Generator) :
    generator.KeepsWhole (σ := σ) (nextIdentifier generator.codec) := by
  rintro start sketch ⟨leaves, hwhole⟩
  rw [nextIdentifier]
  by_cases hlast : sketch.counter + 1 = 0
  · rw [if_pos hlast]
    exact trivial
  · rw [if_neg hlast]
    exact ⟨leaves, { hwhole with }⟩

theorem keepsWhole_note {event : Event} (hfile : event.file? = none) (hline : event.line? = none) :
    generator.KeepsWhole (σ := σ) (note event) := by
  rintro start sketch ⟨leaves, hwhole⟩
  exact ⟨leaves, hwhole.note hfile hline⟩

/-- An entry that is refused leaves everything as it was. -/
theorem meets_make {pre : Sketch σ → Prop}
    (hpre : ∀ sketch, pre sketch → generator.AllWhole start sketch) (blocked : Place → Bool)
    (task : Task) (place : Place) (event : Event) :
    Meets pre (make blocked task place event) (fun _ after =>
      ∃ before, pre before ∧ after = { before with history := event :: before.history })
      (generator.RefusedWhole start) := by
  intro sketch hsketch
  rw [make]
  by_cases hblocked : blocked place = true
  · rw [if_pos hblocked]
    exact hpre sketch hsketch
  · rw [if_neg hblocked]
    by_cases hfree : sketch.history.entryAt place = none
    · rw [if_pos hfree]
      exact ⟨sketch, hsketch, rfl⟩
    · rw [if_neg hfree]
      exact hpre sketch hsketch

theorem keepsWhole_makeDirectory (blocked : Place → Bool) (place parent : Place)
    (identifier : String) :
    generator.KeepsWhole (σ := σ)
      (make blocked .createDirectory place (.directory parent identifier)) := by
  intro start
  refine (meets_make (fun _ h => h) blocked _ _ _).imp ?_
  rintro _ _ ⟨before, ⟨leaves, hwhole⟩, rfl⟩
  exact ⟨leaves, hwhole.note rfl rfl⟩

/-! ## Files

  For a moment there is a file without its lines.  The contract of the tagging begins there. -/

/-- There is a content for the next file. -/
def Supplied (generator : Generator) (start : σ) (payload : ByteArray) (sketch : Sketch σ) :
    Prop :=
  generator.AllWhole start sketch ∧ generator.Drawn start sketch.source payload

theorem Drawn.size_le {now : σ} {content : ByteArray} (h : generator.Drawn start now content) :
    content.size ≤ generator.settings.maxFileSize.toNat := by
  obtain ⟨source, middle, after, length, -, hlength, -, hsize, -⟩ := h
  have hrange : (0 : UInt64) ≤ generator.settings.maxFileSize := UInt64.zero_le
  have hgives := Draw.gives_between (σ := σ) generator.patience hrange source
  rw [hlength] at hgives
  rw [hsize]
  exact UInt64.le_iff_toNat_le.1 hgives.2

/-- Drawing a length and then the bytes supplies a content. -/
theorem supplied_of_draws {length : UInt64} {payload : ByteArray} {source middle : σ}
    (hwhole : generator.Whole start leaves { sketch with source })
    (hlength : Draw.between generator.patience 0 generator.settings.maxFileSize source =
      .ok length middle)
    (hbytes : Draw.bytes length.toNat middle = .ok payload sketch.source) :
    generator.Supplied start payload sketch := by
  have hsize : payload.size = length.toNat := by
    have hgives := Draw.gives_bytes length.toNat middle
    rw [hbytes] at hgives
    exact hgives
  have hon : Reaches source sketch.source :=
    ((Draw.onward_between _ _ _).reaches hlength).trans ((Draw.onward_bytes _).reaches hbytes)
  refine ⟨⟨leaves, hwhole.onward hon⟩, source, middle, sketch.source, length, hwhole.reached,
    hlength, hbytes, hsize, Relation.ReflTransGen.refl⟩

/-- **Tagging makes a file whole** that was made just now.  Where it comes to its end, its lines
    and the file are the record of a leaf; where it does not, the source has ended it. -/
theorem meets_sketchTagging (hvalid : generator.settings.fault? = none) (directory : Place)
    (identifier : String) (payload : ByteArray) :
    Meets (fun sketch => ∃ before, generator.Supplied start payload before ∧
        sketch = { before with history := .file directory identifier payload :: before.history })
      (generator.sketchTagging (identifier ++ fileSuffix)) (fun _ => generator.AllWhole start)
      (generator.RefusedWhole start) := by
  rintro _ ⟨before, ⟨⟨leaves, hwhole⟩, hdrawn⟩, rfl⟩
  have hquiet := quiet_sketchTagging generator (identifier ++ fileSuffix) before.source
    { before with history := .file directory identifier payload :: before.history }
    Relation.ReflTransGen.refl
  cases hresult : generator.sketchTagging (identifier ++ fileSuffix)
      { before with history := .file directory identifier payload :: before.history } with
  | error halt after =>
    rw [hresult] at hquiet
    -- what ends the tagging is a mishap, of which nothing is promised
    obtain ⟨reason, rfl⟩ := hquiet
    exact trivial
  | ok _ after =>
    rw [hresult] at hquiet
    obtain ⟨hsound, _, ⟨tags, rfl, hnodup, hleast, hmost, hsaturated⟩, hhistory⟩ :=
      adds_sketchTagging hvalid _ _ () after (by exact hwhole.sound) hresult
    have hkeeps : Leaf.Keeps generator.settings ⟨identifier, payload, tags⟩ :=
      ⟨hdrawn.size_le, hnodup, hleast, hmost, hsaturated⟩
    refine ⟨leaves ++ [(directory, ⟨identifier, payload, tags⟩)], ?_⟩
    apply hwhole.plant hsound hkeeps (hdrawn.onward hquiet) hquiet
    rw [hhistory, Leaf.events, List.reverse_cons, List.append_assoc]
    rfl

/-- A file is made from its own content and is whole once it is tagged. -/
theorem keepsWhole_sketchFile (hvalid : generator.settings.fault? = none)
    (blocked : Place → Bool) (directory : Place) :
    generator.KeepsWhole (σ := σ) (generator.sketchFile blocked directory) := by
  intro start
  have hmishap : ∀ reason (sketch : Sketch σ),
      generator.RefusedWhole start (.mishap reason) sketch := fun _ _ => trivial
  refine (keepsWhole_nextIdentifier generator start).bind ?_
  intro identifier
  refine (meets_draw hmishap _).bind ?_
  intro length
  refine (meets_draw hmishap _).bind ?_
  intro payload
  have hmake := meets_make (fun (sketch : Sketch σ) (h : generator.Supplied start payload sketch) =>
    h.1) blocked .createFile ((identifier ++ fileSuffix) :: directory)
    (.file directory identifier payload)
  refine (hmake.bind fun _ => meets_sketchTagging hvalid directory identifier payload).of_pre ?_
  rintro sketch ⟨middle, ⟨source, ⟨leaves, hwhole⟩, hlength⟩, hbytes⟩
  exact supplied_of_draws hwhole hlength hbytes

/-! ## Trees

  By the levels: subdirectories are no files, so they leave whole files whole. -/

theorem keepsWhole_sketchDirectory (blocked : Place → Bool) (directory : Place)
    {fillChild : Place → Sketching σ Unit} (h : ∀ child, generator.KeepsWhole (fillChild child)) :
    generator.KeepsWhole (generator.sketchDirectory blocked directory fillChild) := by
  refine (keepsWhole_nextIdentifier generator).bind ?_
  intro identifier
  refine (keepsWhole_makeDirectory blocked _ _ _).bind ?_
  intro _
  exact h _

theorem keepsWhole_sketchDiscard (generator : Generator) :
    generator.KeepsWhole (σ := σ) generator.sketchDiscard := by
  refine (keepsWhole_nextIdentifier generator).bind ?_
  intro identifier
  exact keepsWhole_note rfl rfl

theorem keepsWhole_sketchFillWith (hvalid : generator.settings.fault? = none)
    (blocked : Place → Bool) (directory : Place) (depth : Nat) {slot : Sketching σ Unit}
    (h : generator.KeepsWhole slot) :
    generator.KeepsWhole (generator.sketchFillWith blocked directory depth slot) := by
  refine (keepsWhole_draw (Draw.onward_between _ _ _)).bind ?_
  intro slots
  refine (h.times slots.toNat).bind ?_
  intro _
  refine (keepsWhole_draw (Draw.onward_between _ _ _)).bind ?_
  intro files
  refine ((keepsWhole_sketchFile hvalid blocked directory).times files.toNat).bind ?_
  intro _
  exact keepsWhole_note rfl rfl

/-- **Growing keeps files whole**, and where it is refused an entry there are whole files.  By
    the levels that may be added, as the programs are. -/
theorem keepsWhole_sketchFill (hvalid : generator.settings.fault? = none)
    (blocked : Place → Bool) (levels : Nat) (directory : Place) :
    generator.KeepsWhole (σ := σ) (generator.sketchFill blocked levels directory) := by
  induction levels generalizing directory with
  | zero =>
    exact keepsWhole_sketchFillWith hvalid blocked directory _ (keepsWhole_sketchDiscard generator)
  | succ levels ih =>
    exact keepsWhole_sketchFillWith hvalid blocked directory _
      (keepsWhole_sketchDirectory blocked directory ih)

end Generator

end Thicket
