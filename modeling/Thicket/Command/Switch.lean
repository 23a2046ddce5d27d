/-
  The switches of the command line.

  Every switch has a letter and a word.  Some take a value, two are flags, and two ask for a text
  instead of a run.
-/
namespace Thicket.Command

/-- The switches that take a value. -/
inductive Valued where
  | name
  | seed
  | depth
  | branchFactor
  | maxFiles
  | maxFileSize
  | maxTags
  | tagDensity
  | root
deriving DecidableEq, Repr

/-- The switches that stand alone. -/
inductive Flag where
  | untaggedFilesDisallowed
  | quiet
deriving DecidableEq, Repr

/-- What a switch asks for. -/
inductive Switch where
  /-- To set something to the value that comes with the switch. -/
  | valued (which : Valued)
  /-- To turn something on. -/
  | flag (which : Flag)
  /-- To show the help text. -/
  | help
  /-- To show the version. -/
  | version
deriving DecidableEq, Repr

namespace Switch

/-- All switches, with their letters and words. -/
def all : List (Switch × Char × String) := [
  (valued .name, 'n', "name"),
  (valued .seed, 's', "seed"),
  (valued .depth, 'd', "depth"),
  (valued .branchFactor, 'b', "branch-factor"),
  (valued .maxFiles, 'f', "max-files"),
  (valued .maxFileSize, 'z', "max-filesize"),
  (valued .maxTags, 't', "max-tags"),
  (valued .tagDensity, 'p', "tag-density"),
  (flag .untaggedFilesDisallowed, 'u', "untagged-files-disallowed"),
  (valued .root, 'r', "root"),
  (flag .quiet, 'q', "quiet"),
  (help, 'h', "help"),
  (version, 'V', "version")]

/-- The switch of a letter. -/
def ofLetter? (letter : Char) : Option Switch :=
  (all.find? fun (_, c, _) => c == letter).map (·.1)

/-- The switch of a word. -/
def ofWord? (word : String) : Option Switch :=
  (all.find? fun (_, _, w) => w == word).map (·.1)

end Switch

end Thicket.Command
