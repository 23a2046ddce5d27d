/-
  Why a disk refuses an operation.
-/
namespace Thicket

/-- The reasons for which a disk refuses an operation. -/
inductive Cause where
  /-- There is nothing at the path, or a directory on the way to it is missing. -/
  | notFound
  /-- There is already something at the path. -/
  | alreadyThere
  /-- Something on the way, or at the end of a path that asks for a directory, is none. -/
  | notDirectory
  /-- The path leads to a directory where a file is needed. -/
  | isDirectory
  /-- A directory cannot be removed when it is called by `.`. -/
  | invalidArgument
  /-- A directory that is not empty cannot be removed. -/
  | notEmpty
  /-- The top directory cannot be removed. -/
  | busy
  /-- The device takes no more bytes. -/
  | noSpace
  /-- The path or one of its names is too long. -/
  | nameTooLong
  /-- Following the links on the way does not come to an end soon enough. -/
  | linkLoop
  /-- The path holds a NUL character. -/
  | nulInPath
  /-- The bytes of the file are no UTF-8 text. -/
  | notText
deriving DecidableEq, Repr

namespace Cause

/-- A system error with its number. -/
def numbered (text number : String) : String := text ++ " (os error " ++ number ++ ")"

/-- The wording of a cause. -/
def message : Cause → String
  | notFound => numbered "No such file or directory" "2"
  | alreadyThere => numbered "File exists" "17"
  | notDirectory => numbered "Not a directory" "20"
  | isDirectory => numbered "Is a directory" "21"
  | invalidArgument => numbered "Invalid argument" "22"
  | noSpace => numbered "No space left on device" "28"
  | notEmpty => numbered "Directory not empty" "39"
  | busy => numbered "Device or resource busy" "16"
  | nameTooLong => numbered "File name too long" "36"
  | linkLoop => numbered "Too many levels of symbolic links" "40"
  | nulInPath => "file name contained an unexpected NUL byte"
  | notText => "stream did not contain valid UTF-8"

end Cause

end Thicket
