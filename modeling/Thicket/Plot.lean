/-
  The state in which a fixture grows, and the steps that change it.

  1. **World** — what outlives a fixture's making: the random source, the disk, and the reports so
     far.
  2. **Stop** — a step ends early for a failure that the caller is told of, or for a mishap of
     the random source.  Whatever a step changed before it ended stays changed.
  3. **Plot** — the world together with what belongs to one fixture only: the next identifier's
     counter, the pool of tags, the ledger and the tallies.
-/
import Thicket.Codec.Shuffled
import Thicket.Ledger
import Thicket.Pool
import Thicket.Settings

namespace Thicket

/-- Why a step ended early. -/
inductive Stop where
  /-- Something could not be done. -/
  | failed (failure : Failure)
  /-- A draw came to nothing. -/
  | mishap (mishap : Mishap)
deriving DecidableEq, Repr

/-- What fixtures are made of and what they leave behind. -/
structure World (σ : Type) where
  source : σ
  disk : Disk
  notices : Array Notice

/-- A step on a world. -/
abbrev Act (σ : Type) := EStateM Stop (World σ)

/-- The state while one fixture is made. -/
structure Plot (σ : Type) extends World σ where
  /-- The counter of the next identifier. -/
  counter : UInt64
  /-- The tags in use. -/
  pool : Pool
  /-- The fixture's ledger. -/
  ledger : Ledger
  /-- How many directories there are, the fixture directory included. -/
  directories : Nat
  /-- How many files there are. -/
  files : Nat
  /-- How many bytes the files have together. -/
  payloadBytes : Nat

/-- A step while one fixture is made. -/
abbrev Making (σ : Type) := EStateM Stop (Plot σ)

/-- A generator: its settings, the seed they led to, the codec of its identifiers, and how often a
    rejected draw is repeated before a fixture is given up. -/
structure Generator where
  settings : Settings
  seed : UInt64
  codec : Codec
  patience : Nat

/-! ## Steps on a world -/

namespace Act

variable {σ : Type}

/-- Draws from the world's source. -/
def draw {α : Type} (d : Draw σ α) : Act σ α := fun world =>
  match d world.source with
  | .ok a source => .ok a { world with source }
  | .error mishap source => .error (.mishap mishap) { world with source }

/-- Reports something. -/
def report (notice : Notice) : Act σ Unit :=
  modify fun world => { world with notices := world.notices.push notice }

/-- Ends the step with a failure. -/
def fail {α : Type} (failure : Failure) : Act σ α := throw (.failed failure)

end Act

/-! ## Steps on a plot -/

namespace Making

variable {σ : Type}

/-- A step on the world of a plot. -/
def onWorld {α : Type} (act : Act σ α) : Making σ α := fun plot =>
  match act plot.toWorld with
  | .ok a world => .ok a { plot with toWorld := world }
  | .error stop world => .error stop { plot with toWorld := world }

/-- Draws from the plot's source. -/
def draw {α : Type} (d : Draw σ α) : Making σ α := onWorld (Act.draw d)

/-- Changes the disk; a refusal ends the making and names the operation and its path. -/
def onDisk (task : Task) (path : String) (change : Disk → Except Cause Disk) : Making σ Unit :=
  fun plot =>
    match change plot.disk with
    | .ok disk => .ok () { plot with disk }
    | .error cause => .error (.failed (.storage task path cause)) plot

/-- The next identifier; none is given twice, so the making ends when the counter runs out. -/
def nextIdentifier (codec : Codec) : Making σ String := fun plot =>
  if plot.counter + 1 = 0 then .error (.mishap .stalled) plot
  else .ok (codec.encode plot.counter) { plot with counter := plot.counter + 1 }

/-- Puts a tag to use. -/
def useTag (tag : String) : Making σ Unit :=
  modify fun plot => { plot with pool := (plot.pool.insert tag).2 }

/-- Adds a line to the ledger. -/
def record (file tag : String) : Making σ Unit := fun plot =>
  match plot.ledger.append plot.disk file tag with
  | (.ok (), ledger, disk) => .ok () { plot with ledger, disk }
  | (.error failure, ledger, disk) => .error (.failed failure) { plot with ledger, disk }

/-- Does a step a number of times; it may be a step of any kind. -/
def times {ε τ : Type} : Nat → EStateM ε τ Unit → EStateM ε τ Unit
  | 0, _ => pure ()
  | count + 1, step => do
    step
    times count step

end Making

end Thicket
