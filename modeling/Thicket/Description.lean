/-
  The description of a generator, for people who look for what it was made from.

  Densities are written with a point in any case, and by a power of ten when they are below `1e-4`
  or not below `1e16`.
-/
import Thicket.Generator

namespace Thicket

/-- How densities are written in descriptions. -/
def densityInDescriptions : Layout := ⟨some (-4, 15), true⟩

/-- A field of a record and its value. -/
def describeField (name value : String) : String := name ++ ": " ++ value

/-- An optional seed. -/
def describeSeed : Option UInt64 → String
  | some seed => "Some(" ++ toString seed.toNat ++ ")"
  | none => "None"

/-- The settings, in the order of their declaration. -/
def Settings.describe (settings : Settings) : String :=
  let fields := [
    describeField "seed" (describeSeed settings.seed),
    describeField "depth" (toString settings.depth.toNat),
    describeField "branch_factor" (toString settings.branchFactor.toNat),
    describeField "max_files" (toString settings.maxFiles.toNat),
    describeField "max_file_size" (toString settings.maxFileSize.toNat),
    describeField "max_tags" (toString settings.maxTags.toNat),
    describeField "tag_density" (densityInDescriptions.write settings.tagDensity),
    describeField "untagged_files_disallowed" (toString settings.untaggedFilesDisallowed),
    describeField "root" (Quoted.text settings.root)]
  "GeneratorConfig \x7b " ++ ", ".intercalate fields ++ " \x7d"

/-- The settings and the seed of a generator; two dots stand for what is left out. -/
def Generator.describe (generator : Generator) : String :=
  let fields := [
    describeField "config" generator.settings.describe,
    describeField "seed" (toString generator.seed.toNat),
    ".."]
  "Generator \x7b " ++ ", ".intercalate fields ++ " \x7d"

end Thicket
