/-
  Tagging a file.

  A file gets between the least and the greatest number of tags.  Each tag is, with the
  probability that the density says, one of those in use, and otherwise a new identifier; while
  the pool is empty it is a new identifier in any case.  A tag that the file has already is drawn
  again.  At a saturated density a file gets one tag only.
-/
import Thicket.Plot

namespace Thicket

namespace Generator

variable {σ : Type} [WordSource σ]

/-- A tag: one in use if the sample is below the density and there is one, else a new one. -/
def pickTag (generator : Generator) : Making σ String := do
  let sample ← Making.draw Draw.unit
  if generator.settings.tagDensity.exceedsSample sample then
    let plot ← get
    match ← Making.draw (Draw.choose generator.patience plot.pool.order) with
    | some tag => pure tag
    | none => Making.nextIdentifier generator.codec
  else Making.nextIdentifier generator.codec

/-- A tag that is none of the given ones; drawn until there is one. -/
def pickOtherTag (generator : Generator) (taken : List String) : Making σ String :=
  Draw.retry (.mishap .stalled) (do
    let tag ← generator.pickTag
    pure (if taken.contains tag then none else some tag)) generator.patience

/-- Gives a file so many tags more; `taken` are those that it has. -/
def tagTimes (generator : Generator) (file : String) : Nat → List String → Making σ Unit
  | 0, _ => pure ()
  | count + 1, taken => do
    let tag ← generator.pickOtherTag taken
    Making.useTag tag
    Making.record file tag
    let plot ← get
    if !plot.pool.isEmpty && generator.settings.isSaturated then pure ()
    else tagTimes generator file count (tag :: taken)

/-- Tags a file and records each tag in the ledger. -/
def tagFile (generator : Generator) (file : String) : Making σ Unit := do
  let settings := generator.settings
  let count ← Making.draw (Draw.between generator.patience settings.minTags settings.maxTags)
  generator.tagTimes file count.toNat []

end Generator

end Thicket
