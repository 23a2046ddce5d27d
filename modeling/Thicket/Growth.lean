/-
  Growing a directory tree.

  A directory is filled with subdirectories first and with files after them.  The number of
  subdirectory slots is drawn at every depth, and every slot uses up an identifier; only above the
  greatest depth does a slot become a directory, which is filled before the next slot is looked at.
  So no directory above that depth is without subdirectories, and none at it has any.

  The recursion is on how many levels may still be added.
-/
import Thicket.Tagging

namespace Thicket

namespace Generator

variable {σ : Type} [WordSource σ]

/-- What the name of a file ends in. -/
def fileSuffix : String := ".dat"

/-- Makes one file of random bytes in a directory and tags it. -/
def plantFile (generator : Generator) (directory : String) : Making σ Unit := do
  let identifier ← Making.nextIdentifier generator.codec
  let file := identifier ++ fileSuffix
  let path := Path.join directory file
  let length ← Making.draw (Draw.between generator.patience 0 generator.settings.maxFileSize)
  let payload ← Making.draw (Draw.bytes length.toNat)
  Making.onDisk .createFile path fun disk => disk.makeFile path payload
  modify fun plot =>
    { plot with files := plot.files + 1, payloadBytes := plot.payloadBytes + length.toNat }
  generator.tagFile file

/-- Makes one subdirectory and fills it as told. -/
def plantDirectory (generator : Generator) (directory : String)
    (fillChild : String → Making σ Unit) : Making σ Unit := do
  let name ← Making.nextIdentifier generator.codec
  let path := Path.join directory name
  Making.onDisk .createDirectory path fun disk => disk.makeDirectory path
  modify fun plot => { plot with directories := plot.directories + 1 }
  fillChild path

/-- Fills a directory: its slots as told, then its files. -/
def fillWith (generator : Generator) (directory : String) (depth : Nat) (slot : Making σ Unit) :
    Making σ Unit := do
  let patience := generator.patience
  let slots ← Making.draw (Draw.between patience 1 generator.settings.branchFactor)
  Making.times slots.toNat slot
  let files ← Making.draw (Draw.between patience 0 generator.settings.maxFiles)
  Making.times files.toNat (generator.plantFile directory)
  Making.onWorld (Act.report (.filled directory depth slots files))

/-- Fills a directory to which so many levels may still be added. -/
def fill (generator : Generator) : Nat → String → Making σ Unit
  | 0, directory =>
    generator.fillWith directory generator.settings.depth.toNat do
      let _ ← Making.nextIdentifier generator.codec
  | levels + 1, directory =>
    generator.fillWith directory (generator.settings.depth.toNat - (levels + 1))
      (generator.plantDirectory directory fun child => fill generator levels child)

end Generator

end Thicket
