/-
  Paths as text, and places in the directory tree.

  1. **Splitting** — `split` cuts a text at every slash.  An empty piece stands for a doubled,
     leading or trailing slash; a walk over the pieces gives it its meaning.
  2. **Components** — what a path says, with doubled slashes and inner `.` pieces left out: the
     root, a leading `.`, the step `..`, and plain names.
  3. **Places** — a place is the list of names that leads to it from the top of the tree, innermost
     name first, so that the directory that holds it is its tail.
-/
namespace Thicket

/-- The names that lead to a place from the top of the directory tree, innermost first. -/
abbrev Place := List String

namespace Path

/-! ## Limits -/

/-- A path must be shorter than this many bytes. -/
def sizeLimit : Nat := 4096

/-- A name may have at most this many bytes. -/
def nameLimit : Nat := 255

/-- The text is short enough to be used as a path. -/
def fits (path : String) : Bool := decide (path.utf8ByteSize < sizeLimit)

/-- The text is short enough to be a name in a directory. -/
def nameFits (name : String) : Bool := decide (name.utf8ByteSize ≤ nameLimit)

/-! ## Names -/

/-- A text by which a path can step to an entry. -/
structure IsStep (text : String) : Prop where
  ne_empty : text ≠ ""
  ne_here : text ≠ "."
  ne_above : text ≠ ".."
  no_slash : '/' ∉ text.toList
  no_nul : '\x00' ∉ text.toList

/-- A text that can be the name of an entry. -/
structure IsName (text : String) : Prop extends IsStep text where
  fits : nameFits text = true

instance (text : String) : Decidable (IsStep text) :=
  decidable_of_decidable_of_iff
    (p := text ≠ "" ∧ text ≠ "." ∧ text ≠ ".." ∧ '/' ∉ text.toList ∧ '\x00' ∉ text.toList)
    ⟨fun ⟨empty, here, above, slash, nul⟩ => ⟨empty, here, above, slash, nul⟩,
      fun h => ⟨h.ne_empty, h.ne_here, h.ne_above, h.no_slash, h.no_nul⟩⟩

instance (text : String) : Decidable (IsName text) :=
  decidable_of_decidable_of_iff (p := IsStep text ∧ nameFits text = true)
    ⟨fun ⟨step, fits⟩ => ⟨step, fits⟩, fun h => ⟨h.toIsStep, h.fits⟩⟩

/-! ## Splitting -/

/-- The pieces between the slashes, on characters. -/
def splitChars : List Char → List (List Char)
  | [] => [[]]
  | c :: rest =>
    if c = '/' then [] :: splitChars rest
    else
      match splitChars rest with
      | piece :: pieces => (c :: piece) :: pieces
      | [] => [[c]]

/-- The pieces between the slashes; one more than there are slashes. -/
def split (path : String) : List String := (splitChars path.toList).map String.ofList

/-- What follows a name cannot be passed over without asking whether the name is a directory: there
    are slashes, and behind them nothing but `.`, or `..` before any name. -/
def asksForDirectory (rest : List String) : Bool :=
  match rest.dropWhile fun piece => piece = "" ∨ piece = "." with
  | [] => !rest.isEmpty
  | piece :: _ => piece = ".."

/-- The last piece that is not empty. -/
def lastPiece? (path : String) : Option String := ((split path).filter (· ≠ "")).getLast?

/-- The path starts at the top of the tree. -/
def isAbsolute (path : String) : Bool := path.toList.head? == some '/'

/-! ## Components -/

/-- One step that a path takes. -/
inductive Component where
  /-- To the top of the tree. -/
  | root
  /-- Nowhere; only at the start of a relative path. -/
  | here
  /-- To the directory above. -/
  | above
  /-- To an entry of the directory. -/
  | name (text : String)
deriving DecidableEq, Repr

namespace Component

/-- How a component is written. -/
def text : Component → String
  | root => "/"
  | here => "."
  | above => ".."
  | name text => text

/-- The component that a piece inside a path stands for, if any. -/
def ofPiece? (piece : String) : Option Component :=
  if piece = "" ∨ piece = "." then none
  else if piece = ".." then some above
  else some (name piece)

end Component

/-- The components of a path. -/
def components (path : String) : List Component :=
  let pieces := split path
  let steps := pieces.filterMap Component.ofPiece?
  if isAbsolute path then .root :: steps
  else if pieces.head? = some "." then .here :: steps
  else steps

/-- The path consists of one plain name and nothing else, not even a slash behind it. -/
def isPlainName (path : String) : Bool := components path == [.name path]

/-- Writes components as a path. -/
def ofComponents : List Component → String
  | .root :: steps => "/" ++ "/".intercalate (steps.map Component.text)
  | steps => "/".intercalate (steps.map Component.text)

/-! ## Places -/

/-- The absolute path of a place. -/
def ofPlace : Place → String
  | [] => "/"
  | place => place.foldr (fun name path => path ++ "/" ++ name) ""

/-- The path of an entry of a directory. -/
def join (directory name : String) : String :=
  if directory.toList.getLast? = some '/' then directory ++ name else directory ++ "/" ++ name

/-! ## Small checks -/

example : split "/a//b/" = ["", "a", "", "b", ""] := by decide +kernel
example : asksForDirectory [""] ∧ asksForDirectory [".", "..", "a"] ∧ ¬ asksForDirectory [] := by
  decide +kernel
example : components "/a/./b/.." = [.root, .name "a", .name "b", .above] := by decide +kernel
example : components "./a" = [.here, .name "a"] ∧ components "" = [] := by decide +kernel
example : isPlainName "a b" ∧ ¬ isPlainName "a/" ∧ ¬ isPlainName "." ∧ ¬ isPlainName "" := by
  decide +kernel
example : ofPlace ["b", "a"] = "/a/b" ∧ join "/" "a" = "/a" ∧ join "/a" "b" = "/a/b" := by
  decide +kernel

end Path

end Thicket
