/-
  Sketches: how a fixture grows where there is no disk.

  A sketch has what decides about the growth (the source, the counter, the pool) and, in place of a
  disk and a ledger, the history of what happened.  Places are counted from the fixture directory.
  The steps of a sketch are the steps of the program with every change of the disk replaced by
  an entry in the history.  Two things can end a sketch early: a mishap of the source, and an entry
  that cannot be made, because its place is blocked or taken.

  1. **History** — the events, newest first, and what they amount to: the entries (`entryAt`), the
     lines of the ledger, the tags by first use, the tallies, the reports.
  2. **Steps and programs** — one for each of the program's own.  Which places are blocked is a
     parameter; it stands for the lengths of paths, all that a growing fixture has to fear of a
     disk.

  That a fixture grows on a disk as it does in its sketch is `Thicket.Proofs.Sketch.Simulation`.
-/
import Thicket.Generator

namespace Thicket

/-! ## History -/

/-- Something that happens while a fixture grows; places count from the fixture directory. -/
inductive Event where
  /-- A subdirectory was made. -/
  | directory (parent : Place) (identifier : String)
  /-- A slot at the greatest depth used up an identifier. -/
  | discarded (identifier : String)
  /-- A file was made. -/
  | file (parent : Place) (identifier : String) (content : ByteArray)
  /-- A line was added to the ledger. -/
  | line (file tag : String)
  /-- A directory is complete. -/
  | filled (place : Place) (depth : Nat) (slots files : UInt64)
deriving DecidableEq

/-- What happened so far, newest first. -/
abbrev History := List Event

namespace Event

/-- The place of the entry that an event makes, if it makes one. -/
def place? : Event → Option Place
  | directory parent identifier => some (identifier :: parent)
  | file parent identifier _ => some ((identifier ++ Generator.fileSuffix) :: parent)
  | _ => none

/-- The entry that an event makes; only of use where it makes one. -/
def entry : Event → Entry
  | file _ _ content => .file content
  | _ => .directory

/-- The line that an event adds to the ledger, if it adds one. -/
def line? : Event → Option (String × String)
  | line owner tag => some (owner, tag)
  | _ => none

/-- The report that goes with an event, if one does. -/
def notice? (top : Place) : Event → Option Notice
  | filled place depth slots files =>
    some (.filled (Path.ofPlace (place ++ top)) depth slots files)
  | _ => none

/-- How many subdirectories an event makes. -/
def directories : Event → Nat
  | directory .. => 1
  | _ => 0

/-- How many files an event makes. -/
def files : Event → Nat
  | file .. => 1
  | _ => 0

/-- How many bytes of files an event makes. -/
def payloadBytes : Event → Nat
  | file _ _ content => content.size
  | _ => 0

/-- Nothing is made at the place of the fixture directory. -/
theorem ne_nil_of_place? {event : Event} {place : Place} (h : event.place? = some place) :
    place ≠ [] := by
  rintro rfl
  cases event <;> cases h

/-- What makes an entry does nothing else that shows. -/
theorem only_entry_of_place? {event : Event} {place : Place} (h : event.place? = some place)
    (top : Place) : event.line? = none ∧ event.notice? top = none := by
  cases event with
  | directory parent identifier => exact ⟨rfl, rfl⟩
  | file parent identifier content => exact ⟨rfl, rfl⟩
  | discarded identifier => cases h
  | line owner tag => cases h
  | filled directory depth slots files => cases h

/-- What makes no entry leaves the tallies as they are. -/
theorem no_tally_of_place? {event : Event} (h : event.place? = none) :
    event.directories = 0 ∧ event.files = 0 ∧ event.payloadBytes = 0 := by
  cases event with
  | directory parent identifier => cases h
  | file parent identifier content => cases h
  | discarded identifier => exact ⟨rfl, rfl, rfl⟩
  | line owner tag => exact ⟨rfl, rfl, rfl⟩
  | filled directory depth slots files => exact ⟨rfl, rfl, rfl⟩

end Event

namespace History

/-- The entry at a place.  One that was made stays as it was made. -/
def entryAt : History → Place → Option Entry
  | [], place => if place = [] then some .directory else none
  | event :: before, place =>
    (entryAt before place).or (if event.place? = some place then some event.entry else none)

/-- The lines of the ledger, in order. -/
def lines : History → List (String × String)
  | [] => []
  | event :: before => lines before ++ event.line?.toList

/-- The tags by first use. -/
def tags : History → List String
  | [] => []
  | .line _ tag :: before => if tag ∈ tags before then tags before else tags before ++ [tag]
  | _ :: before => tags before

/-- The number of subdirectories. -/
def directories : History → Nat
  | [] => 0
  | event :: before => directories before + event.directories

/-- The number of files. -/
def files : History → Nat
  | [] => 0
  | event :: before => files before + event.files

/-- The number of bytes in all files. -/
def payloadBytes : History → Nat
  | [] => 0
  | event :: before => payloadBytes before + event.payloadBytes

/-- The reports, in order, for a fixture directory at the given place. -/
def notices (top : Place) : History → List Notice
  | [] => []
  | event :: before => notices top before ++ (event.notice? top).toList

/-- An entry that was made is there for ever. -/
theorem entryAt_of_suffix {before history : History} (h : before <:+ history) {place : Place}
    {entry : Entry} (hentry : entryAt before place = some entry) :
    entryAt history place = some entry := by
  obtain ⟨more, rfl⟩ := h
  induction more with
  | nil => exact hentry
  | cons event more ih =>
    rw [List.cons_append, entryAt, ih]
    rfl

/-- The fixture directory is there from the start. -/
theorem entryAt_nil (history : History) : entryAt history [] = some .directory :=
  entryAt_of_suffix List.nil_suffix (if_pos rfl)

end History

/-! ## Sketches -/

/-- How far a fixture has grown. -/
structure Progress where
  counter : UInt64
  pool : Pool
  history : History

/-- The state of a fixture that grows without a disk. -/
structure Sketch (σ : Type) extends Progress where
  source : σ

/-- Why a sketch ended early. -/
inductive Halt where
  /-- An entry could not be made. -/
  | refused (task : Task) (place : Place) (cause : Cause)
  /-- A draw came to nothing. -/
  | mishap (reason : Mishap)
deriving DecidableEq

/-- How a halt shows where the fixture directory is at the given place. -/
def Halt.stop (top : Place) : Halt → Stop
  | .refused task place cause => .failed (.storage task (Path.ofPlace (place ++ top)) cause)
  | .mishap reason => .mishap reason

/-- A step of a sketch. -/
abbrev Sketching (σ : Type) := EStateM Halt (Sketch σ)

namespace Sketching

variable {σ : Type}

/-- Draws from the source. -/
def draw {α : Type} (d : Draw σ α) : Sketching σ α := fun sketch =>
  match d sketch.source with
  | .ok a source => .ok a { sketch with source }
  | .error mishap source => .error (.mishap mishap) { sketch with source }

/-- The next identifier. -/
def nextIdentifier (codec : Codec) : Sketching σ String := fun sketch =>
  if sketch.counter + 1 = 0 then .error (.mishap .stalled) sketch
  else .ok (codec.encode sketch.counter) { sketch with counter := sketch.counter + 1 }

/-- Puts a tag to use. -/
def useTag (tag : String) : Sketching σ Unit :=
  modify fun sketch => { sketch with pool := (sketch.pool.insert tag).2 }

/-- Adds an event to the history. -/
def note (event : Event) : Sketching σ Unit :=
  modify fun sketch => { sketch with history := event :: sketch.history }

/-- Makes the entry of an event, unless its place is blocked or taken. -/
def make (blocked : Place → Bool) (task : Task) (place : Place) (event : Event) :
    Sketching σ Unit := fun sketch =>
  if blocked place then .error (.refused task place .nameTooLong) sketch
  else if sketch.history.entryAt place = none then
    .ok () { sketch with history := event :: sketch.history }
  else .error (.refused task place .alreadyThere) sketch

/-- What was made is there. -/
theorem entryAt_of_make {blocked : Place → Bool} {task : Task} {place : Place} {event : Event}
    {before after : Sketch σ} (hplace : event.place? = some place)
    (h : make blocked task place event before = .ok () after) :
    after.history.entryAt place = some event.entry := by
  rw [make] at h
  split at h
  · cases h
  · split at h
    · rename_i hfree
      cases h
      rw [History.entryAt, hfree, hplace, if_pos rfl, Option.none_or]
    · cases h

end Sketching

/-! ## The programs -/

namespace Generator

variable {σ : Type} [WordSource σ]

/-- `pickTag`, sketched. -/
def sketchPick (generator : Generator) : Sketching σ String := do
  let sample ← Sketching.draw Draw.unit
  if generator.settings.tagDensity.exceedsSample sample then
    let sketch ← get
    match ← Sketching.draw (Draw.choose generator.patience sketch.pool.order) with
    | some tag => pure tag
    | none => Sketching.nextIdentifier generator.codec
  else Sketching.nextIdentifier generator.codec

/-- `pickOtherTag`, sketched. -/
def sketchPickOther (generator : Generator) (taken : List String) : Sketching σ String :=
  Draw.retry (.mishap .stalled) (do
    let tag ← generator.sketchPick
    pure (if taken.contains tag then none else some tag)) generator.patience

/-- `tagTimes`, sketched. -/
def sketchTags (generator : Generator) (file : String) : Nat → List String → Sketching σ Unit
  | 0, _ => pure ()
  | count + 1, taken => do
    let tag ← generator.sketchPickOther taken
    Sketching.useTag tag
    Sketching.note (.line file tag)
    let sketch ← get
    if !sketch.pool.isEmpty && generator.settings.isSaturated then pure ()
    else sketchTags generator file count (tag :: taken)

/-- `tagFile`, sketched. -/
def sketchTagging (generator : Generator) (file : String) : Sketching σ Unit := do
  let settings := generator.settings
  let count ← Sketching.draw (Draw.between generator.patience settings.minTags settings.maxTags)
  generator.sketchTags file count.toNat []

/-- `plantFile`, sketched. -/
def sketchFile (generator : Generator) (blocked : Place → Bool) (directory : Place) :
    Sketching σ Unit := do
  let identifier ← Sketching.nextIdentifier generator.codec
  let length ← Sketching.draw (Draw.between generator.patience 0 generator.settings.maxFileSize)
  let payload ← Sketching.draw (Draw.bytes length.toNat)
  Sketching.make blocked .createFile ((identifier ++ fileSuffix) :: directory)
    (.file directory identifier payload)
  generator.sketchTagging (identifier ++ fileSuffix)

/-- `plantDirectory`, sketched. -/
def sketchDirectory (generator : Generator) (blocked : Place → Bool) (directory : Place)
    (fillChild : Place → Sketching σ Unit) : Sketching σ Unit := do
  let identifier ← Sketching.nextIdentifier generator.codec
  Sketching.make blocked .createDirectory (identifier :: directory)
    (.directory directory identifier)
  fillChild (identifier :: directory)

/-- A slot at the greatest depth, sketched. -/
def sketchDiscard (generator : Generator) : Sketching σ Unit := do
  let identifier ← Sketching.nextIdentifier generator.codec
  Sketching.note (.discarded identifier)

/-- `fillWith`, sketched. -/
def sketchFillWith (generator : Generator) (blocked : Place → Bool) (directory : Place)
    (depth : Nat) (slot : Sketching σ Unit) : Sketching σ Unit := do
  let patience := generator.patience
  let slots ← Sketching.draw (Draw.between patience 1 generator.settings.branchFactor)
  Making.times slots.toNat slot
  let files ← Sketching.draw (Draw.between patience 0 generator.settings.maxFiles)
  Making.times files.toNat (generator.sketchFile blocked directory)
  Sketching.note (.filled directory depth slots files)

/-- `fill`, sketched. -/
def sketchFill (generator : Generator) (blocked : Place → Bool) :
    Nat → Place → Sketching σ Unit
  | 0, directory =>
    generator.sketchFillWith blocked directory generator.settings.depth.toNat
      generator.sketchDiscard
  | levels + 1, directory =>
    generator.sketchFillWith blocked directory (generator.settings.depth.toNat - (levels + 1))
      (generator.sketchDirectory blocked directory fun child =>
        sketchFill generator blocked levels child)

end Generator

end Thicket
