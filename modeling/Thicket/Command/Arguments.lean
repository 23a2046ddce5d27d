/-
  Reading the arguments of the command line.

  1. **Tokens** — an argument is the end mark `--`, a word switch `--word` or `--word=value`, a
     cluster of letter switches `-abc`, or anything else.  In a cluster the first letter that
     takes a value takes all that follows it, less one `=`.  Anything else can only be the value
     of a switch that stands right before it.
  2. **Draft** — what the switches said so far.  Setting a switch twice is a conflict, and that
     comes before a fault in the second value.
  3. **Reading** — the arguments are read from left to right and the first refusal counts; a request
     for help or for the version is a refusal too.  A switch whose value is the next argument is not
     set before the next switch is recognised or the arguments end, so an unknown switch in between
     is what the reader hears of.
-/
import Thicket.Command.Switch
import Thicket.Number.Reading
import Thicket.Settings

namespace Thicket.Command

/-- Why arguments do not lead to a run. -/
inductive Refusal where
  | displayHelp
  | displayVersion
  /-- An argument that stands for nothing. -/
  | unknownArgument
  /-- A value is missing, or is empty where it may not be. -/
  | invalidValue
  /-- A value is not what the switch takes. -/
  | valueValidation
  /-- A switch is given twice. -/
  | argumentConflict
  /-- A flag is given a value. -/
  | tooManyValues
  /-- There is no name. -/
  | missingRequiredArgument
deriving DecidableEq, Repr

/-- The exit code that goes with a refusal: showing a text is no failure. -/
def Refusal.exitCode : Refusal → Nat
  | displayHelp => 0
  | displayVersion => 0
  | _ => 2

/-- What the arguments ask for. -/
structure Invocation where
  name : String
  quiet : Bool
  settings : Settings
deriving DecidableEq, Repr

/-! ## Tokens -/

/-- An argument, by its form. -/
inductive Token where
  /-- The mark after which no switches come. -/
  | endMark
  /-- A switch by its word, with the value that is attached to it, if any. -/
  | word (word : String) (value : Option String)
  /-- Switches by their letters, of which there is at least one. -/
  | letters (letters : List Char)
  /-- Neither. -/
  | plain (text : String)
deriving DecidableEq, Repr

/-- Splits a word from the value behind the first `=`. -/
def splitWord (text : List Char) : Token :=
  let word := text.takeWhile (· ≠ '=')
  match text.dropWhile (· ≠ '=') with
  | [] => .word (String.ofList word) none
  | _ :: value => .word (String.ofList word) (some (String.ofList value))

/-- The form of an argument. -/
def Token.ofArgument (argument : String) : Token :=
  match argument.toList with
  | ['-', '-'] => .endMark
  | '-' :: '-' :: rest => splitWord rest
  | '-' :: letter :: rest => .letters (letter :: rest)
  | _ => .plain argument

/-! ## Draft -/

/-- What the switches said so far. -/
structure Draft where
  name : Option String := none
  seed : Option UInt64 := none
  depth : Option UInt64 := none
  branchFactor : Option UInt64 := none
  maxFiles : Option UInt64 := none
  maxFileSize : Option UInt64 := none
  maxTags : Option UInt64 := none
  tagDensity : Option Binary64 := none
  untaggedFilesDisallowed : Bool := false
  root : Option String := none
  quiet : Bool := false
deriving DecidableEq, Repr

/-- Sets something that may be set once, to a value that its reader accepts. -/
def setOnce {α : Type} (current : Option α) (read : String → Except Refusal α) (text : String) :
    Except Refusal (Option α) :=
  match current with
  | some _ => .error .argumentConflict
  | none => (read text).map some

/-- Reads a count. -/
def readCount (text : String) : Except Refusal UInt64 :=
  match Reading.count? text with
  | some value => .ok value
  | none => .error .valueValidation

/-- Reads a real number. -/
def readReal (text : String) : Except Refusal Binary64 :=
  match Reading.real? text with
  | some value => .ok value
  | none => .error .valueValidation

/-- Reads a path, which must not be empty. -/
def readPath (text : String) : Except Refusal String :=
  if text = "" then .error .invalidValue else .ok text

namespace Draft

/-- Sets a switch to a value. -/
def set (draft : Draft) (which : Valued) (text : String) : Except Refusal Draft :=
  match which with
  | .name => (setOnce draft.name .ok text).map fun name => { draft with name }
  | .seed => (setOnce draft.seed readCount text).map fun seed => { draft with seed }
  | .depth => (setOnce draft.depth readCount text).map fun depth => { draft with depth }
  | .branchFactor =>
    (setOnce draft.branchFactor readCount text).map fun branchFactor =>
      { draft with branchFactor }
  | .maxFiles => (setOnce draft.maxFiles readCount text).map fun maxFiles => { draft with maxFiles }
  | .maxFileSize =>
    (setOnce draft.maxFileSize readCount text).map fun maxFileSize => { draft with maxFileSize }
  | .maxTags => (setOnce draft.maxTags readCount text).map fun maxTags => { draft with maxTags }
  | .tagDensity =>
    (setOnce draft.tagDensity readReal text).map fun tagDensity => { draft with tagDensity }
  | .root => (setOnce draft.root readPath text).map fun root => { draft with root }

/-- Turns a flag on. -/
def raise (draft : Draft) (which : Flag) : Except Refusal Draft :=
  match which with
  | .untaggedFilesDisallowed =>
    if draft.untaggedFilesDisallowed then .error .argumentConflict
    else .ok { draft with untaggedFilesDisallowed := true }
  | .quiet =>
    if draft.quiet then .error .argumentConflict else .ok { draft with quiet := true }

/-- What the draft asks for: what is not set has its default, but there must be a name. -/
def complete (draft : Draft) : Except Refusal Invocation :=
  match draft.name with
  | none => .error .missingRequiredArgument
  | some name =>
    let settings : Settings := {}
    .ok {
      name
      quiet := draft.quiet
      settings := {
        seed := draft.seed
        depth := draft.depth.getD settings.depth
        branchFactor := draft.branchFactor.getD settings.branchFactor
        maxFiles := draft.maxFiles.getD settings.maxFiles
        maxFileSize := draft.maxFileSize.getD settings.maxFileSize
        maxTags := draft.maxTags.getD settings.maxTags
        tagDensity := draft.tagDensity.getD settings.tagDensity
        untaggedFilesDisallowed := draft.untaggedFilesDisallowed
        root := draft.root.getD settings.root } }

end Draft

/-! ## Reading -/

/-- A switch that is recognised but not set yet, with its value if that has been met. -/
structure Pending where
  which : Valued
  value : Option String
deriving DecidableEq, Repr

/-- The state between two arguments. -/
structure Reader where
  draft : Draft
  pending : Option Pending
deriving DecidableEq, Repr

namespace Reader

/-- Sets the pending switch, if there is one; it must have met its value. -/
def settle (reader : Reader) : Except Refusal Draft :=
  match reader.pending with
  | none => .ok reader.draft
  | some ⟨_, none⟩ => .error .invalidValue
  | some ⟨which, some value⟩ => reader.draft.set which value

/-- Sets a switch to a value that is attached to it. -/
def setAttached (reader : Reader) (which : Valued) (value : String) : Except Refusal Reader := do
  let draft ← reader.settle
  let draft ← draft.set which value
  pure ⟨draft, none⟩

/-- Notes a switch whose value is still to come. -/
def await (reader : Reader) (which : Valued) : Except Refusal Reader := do
  let draft ← reader.settle
  pure ⟨draft, some ⟨which, none⟩⟩

/-- Takes a switch that stands alone. -/
def takeAlone (reader : Reader) : Switch → Except Refusal Reader
  | .valued which => reader.await which
  | .flag which => do
    let draft ← reader.settle
    let draft ← draft.raise which
    pure ⟨draft, none⟩
  | .help => do
    let _ ← reader.settle
    throw .displayHelp
  | .version => do
    let _ ← reader.settle
    throw .displayVersion

/-- Takes a switch given by its word. -/
def takeWord (reader : Reader) (word : String) (value : Option String) : Except Refusal Reader :=
  match Switch.ofWord? word, value with
  | none, _ => .error .unknownArgument
  | some switch, none => reader.takeAlone switch
  | some (.valued which), some value => reader.setAttached which value
  | some _, some _ => .error .tooManyValues

/-- Less one `=` at its front, if there is one. -/
def dropEquals : List Char → List Char
  | '=' :: rest => rest
  | text => text

/-- Takes switches given by their letters. -/
def takeLetters (reader : Reader) : List Char → Except Refusal Reader
  | [] => .ok reader
  | letter :: rest =>
    match Switch.ofLetter? letter with
    | none => .error .unknownArgument
    | some (.valued which) =>
      if rest.isEmpty then reader.await which
      else reader.setAttached which (String.ofList (dropEquals rest))
    | some switch => do
      let reader ← reader.takeAlone switch
      takeLetters reader rest

/-- Takes an argument that is no switch: it is the value of the switch right before it, or it
    stands for nothing. -/
def takePlain (reader : Reader) (text : String) : Except Refusal Reader :=
  match reader.pending with
  | some ⟨which, none⟩ => .ok { reader with pending := some ⟨which, some text⟩ }
  | _ => .error .unknownArgument

/-- Takes all arguments. -/
def takeAll (reader : Reader) : List String → Except Refusal Draft
  | [] => reader.settle
  | argument :: rest =>
    match Token.ofArgument argument with
    | .endMark => if rest.isEmpty then reader.settle else .error .unknownArgument
    | .word word value => do takeAll (← reader.takeWord word value) rest
    | .letters letters => do takeAll (← reader.takeLetters letters) rest
    | .plain text => do takeAll (← reader.takePlain text) rest

end Reader

/-- What the arguments ask for. -/
def Invocation.ofArguments (arguments : List String) : Except Refusal Invocation := do
  let draft ← Reader.takeAll ⟨{}, none⟩ arguments
  draft.complete

/-- Why the arguments are refused, if they are. -/
def refusal? (arguments : List String) : Option Refusal :=
  match Invocation.ofArguments arguments with
  | .error refusal => some refusal
  | .ok _ => none

/-! ## Small checks -/

example : (Invocation.ofArguments ["-uqnx"]).toOption.map (·.name) = some "x" := by decide +kernel
example : refusal? ["-n", "x", "-s", "1", "-s", "bad"] = some .argumentConflict := by
  decide +kernel
example : refusal? ["-s", "bad", "--bogus"] = some .unknownArgument := by decide +kernel
example : refusal? ["-s", "bad", "-h"] = some .valueValidation := by decide +kernel

end Thicket.Command
