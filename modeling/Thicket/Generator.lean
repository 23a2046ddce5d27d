/-
  Making a fixture.

  1. **Making a generator** — the settings are checked, the seed is reported, and the alphabet of
     the identifiers is shuffled; nothing touches the disk.
  2. **The root** — it is made if it is missing and resolved to an absolute path.  Everything after
     that is reached through the resolved path.
  3. **A fixture** — `generate` makes the directory `<root>/<name>`, which must not be there yet,
     opens the ledger `<root>/<name>.tag` (`openFixture`), and grows the tree.  Once the ledger is
     open it is closed on every way out, and only then is the outcome told: what went wrong in the
     tree comes before what goes wrong in closing.
-/
import Thicket.Growth

namespace Thicket

/-- What was made for one fixture. -/
structure Summary where
  seed : UInt64
  /-- The fixture directory. -/
  target : String
  /-- The ledger. -/
  ledger : String
  /-- The number of directories, the fixture directory included. -/
  directories : Nat
  files : Nat
  payloadBytes : Nat
  ledgerEntries : Nat
  distinctTags : Nat
deriving DecidableEq, Repr

namespace Generator

variable {σ : Type} [WordSource σ]

/-! ## Making a generator -/

/-- How often a rejected draw is repeated, unless something else is asked for. -/
def defaultPatience : Nat := 2 ^ 62

/-- A generator with the given seed, whose alphabet is drawn from the world's source. -/
def create (settings : Settings) (seed : UInt64) (patience : Nat := defaultPatience) :
    Act σ Generator :=
  match settings.fault? with
  | some fault => Act.fail (.invalid fault)
  | none => do
    Act.report (.seed seed)
    match ← Act.draw (Codec.shuffled patience Codec.fixtureLength) with
    | .ok codec => pure { settings, seed, codec, patience }
    | .error fault => Act.fail (.invalid fault)

/-! ## The root -/

/-- Makes the root directory, and those above it, if nothing is there. -/
def makeRoot (root : String) : Act σ Unit := fun world =>
  if world.disk.pathExists root then .ok () world
  else
    let notices := world.notices.push (.rootMissing root)
    match world.disk.makeDirectories root with
    | (.ok (), disk) => .ok () { world with disk, notices }
    | (.error cause, disk) =>
      .error (.failed (.storage .createTestRoot root cause)) { world with disk, notices }

/-- The absolute path of the root directory. -/
def resolveRoot (root : String) : Act σ String := fun world =>
  match world.disk.resolve root with
  | .ok place => .ok (Path.ofPlace place) world
  | .error cause => .error (.failed (.storage .resolveTestRoot root cause)) world

/-! ## A fixture -/

/-- What the name of a ledger ends in. -/
def ledgerSuffix : String := ".tag"

/-- Makes the fixture directory. -/
def makeTarget (target : String) : Act σ Unit := fun world =>
  match world.disk.makeDirectory target with
  | .ok disk => .ok () { world with disk }
  | .error .alreadyThere => .error (.failed (.alreadyExists target)) world
  | .error cause => .error (.failed (.storage .createFixtureDirectory target cause)) world

/-- Opens the ledger, with a warning if there is something at its path. -/
def openLedger (path : String) : Act σ Ledger := fun world =>
  let notices := world.notices ++ (Ledger.openingNotices world.disk path).toArray
  match Ledger.create world.disk path with
  | .ok (ledger, disk) => .ok ledger { world with disk, notices }
  | .error failure => .error (.failed failure) { world with notices }

/-- The state in which the growing of a fixture begins. -/
def startPlot (world : World σ) (ledger : Ledger) : Plot σ :=
  { world with
    counter := 0
    pool := .empty
    ledger
    directories := 1
    files := 0
    payloadBytes := 0 }

/-- Closes the ledger of a plot and tells the outcome. -/
def close (generator : Generator) (target : String)
    (grown : EStateM.Result Stop (Plot σ) Unit) : EStateM.Result Stop (World σ) Summary :=
  match grown with
  | .error stop plot =>
    let (_, disk) := plot.ledger.finish plot.disk
    .error stop { plot.toWorld with disk }
  | .ok () plot =>
    match plot.ledger.finish plot.disk with
    | (.error failure, disk) => .error (.failed failure) { plot.toWorld with disk }
    | (.ok entries, disk) =>
      .ok {
        seed := generator.seed
        target
        ledger := plot.ledger.path
        directories := plot.directories
        files := plot.files
        payloadBytes := plot.payloadBytes
        ledgerEntries := entries
        distinctTags := plot.pool.size } { plot.toWorld with disk }

/-- Grows the tree of a fixture whose directory and ledger are there. -/
def grow (generator : Generator) (target : String) (ledger : Ledger) : Act σ Summary :=
  fun world =>
    generator.close target
      (generator.fill generator.settings.depth.toNat target (startPlot world ledger))

/-- Makes the directory of a fixture and opens its ledger; gives the path of the one and the other
    itself.  No word is drawn. -/
def openFixture (generator : Generator) (name : String) : Act σ (String × Ledger) :=
  if Path.isPlainName name then do
    let root := generator.settings.root
    makeRoot root
    let base ← resolveRoot root
    let target := Path.join base name
    makeTarget target
    let ledger ← openLedger (Path.join base (name ++ ledgerSuffix))
    pure (target, ledger)
  else Act.fail (.invalid (.nameNotPlain name))

/-- Makes the fixture of a name: its directory tree and its ledger. -/
def generate (generator : Generator) (name : String) : Act σ Summary := do
  let (target, ledger) ← generator.openFixture name
  Act.report (.generating target)
  generator.grow target ledger

end Generator

end Thicket
