/-
  The settings of a generator.

  Settings and a seed determine a fixture.  `validate` names the first fault in a fixed order:
  branches, density, tags, root.
-/
import Thicket.Failure

namespace Thicket

/-- The parameters of a generator. -/
structure Settings where
  /-- The seed of the random source; one is drawn where there is none. -/
  seed : Option UInt64 := none
  /-- How deep the deepest directories lie below the fixture directory. -/
  depth : UInt64 := 4
  /-- The greatest number of subdirectories of a directory. -/
  branchFactor : UInt64 := 4
  /-- The greatest number of files in a directory. -/
  maxFiles : UInt64 := 5
  /-- The greatest length of a file. -/
  maxFileSize : UInt64 := 1000
  /-- The greatest number of tags of a file. -/
  maxTags : UInt64 := 3
  /-- The probability that a tag in use is taken instead of a new one. -/
  tagDensity : Binary64 := Binary64.ofDecimal false 3 (-1)
  /-- Every file gets at least one tag. -/
  untaggedFilesDisallowed : Bool := false
  /-- The directory that holds fixtures and their ledgers. -/
  root : String := "Tests/Generated"
deriving DecidableEq, Repr

namespace Settings

/-- The least number of tags of a file. -/
def minTags (settings : Settings) : UInt64 := if settings.untaggedFilesDisallowed then 1 else 0

/-- The first fault of the settings, if they have one. -/
def fault? (settings : Settings) : Option Fault :=
  if settings.branchFactor = 0 then some .noBranches
  else if !settings.tagDensity.isProbability then some (.densityOutside settings.tagDensity)
  else if settings.maxTags < settings.minTags then
    some (.tooFewTags settings.maxTags settings.minTags)
  else if settings.root = "" then some .emptyRoot
  else none

/-- Refuses settings that no run could satisfy. -/
def validate (settings : Settings) : Except Failure Unit :=
  match settings.fault? with
  | some fault => .error (.invalid fault)
  | none => .ok ()

end Settings

/-- The density from which on a file gets no further tag once some tag is in use. -/
def saturatedDensity : Binary64 := Binary64.ofDecimal false 99 (-2)

/-- Tags are so likely to be reused that one for each file is all that can be asked for. -/
def Settings.isSaturated (settings : Settings) : Bool :=
  settings.tagDensity.atLeast saturatedDensity

/-! ## Small checks -/

example : ({} : Settings).fault? = none := by decide +kernel
example : ({ tagDensity := Binary64.nan, maxTags := 0 } : Settings).fault? =
    some (.densityOutside Binary64.nan) := by decide +kernel
example : saturatedDensity.bits = 0x3fefae147ae147ae := by decide +kernel

end Thicket
