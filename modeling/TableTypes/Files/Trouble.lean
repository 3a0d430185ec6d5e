import TableTypes.Files.Path
import TableTypes.Text.Literal

/-!
# Troubles with files

Why a path cannot be used as asked. All causes but one come from the file system and have its
number and its words; the message ends with the path as it was spelled.
-/

namespace TableTypes.Files

/-- What is wrong. -/
inductive Cause where
  /-- There is nothing at the path. -/
  | missing
  /-- There is something at the path already. -/
  | occupied
  /-- The path leads through something that is no directory. -/
  | noDirectory
  /-- There is a directory where a file is wanted. -/
  | directory
  /-- A name, or the whole path, is too long. -/
  | tooLong
  /-- The path holds a character that no path can hold. -/
  | nullCharacter
  deriving DecidableEq, Repr

/-- The number and the words of the file system for a cause of its own. -/
def Cause.systemError? : Cause → Option (Nat × String)
  | missing => some (2, "No such file or directory")
  | occupied => some (17, "File exists")
  | noDirectory => some (20, "Not a directory")
  | directory => some (21, "Is a directory")
  | tooLong => some (36, "File name too long")
  | nullCharacter => none

/-- A path that cannot be used, and why. -/
structure Trouble where
  cause : Cause
  path : Path
  deriving DecidableEq, Repr

/-- The file system itself reports the trouble. -/
def Trouble.isSystemError (trouble : Trouble) : Bool :=
  trouble.cause.systemError?.isSome

/-- The text that reports the trouble. -/
def Trouble.message (trouble : Trouble) : String :=
  match trouble.cause.systemError? with
  | some (number, words) =>
    "[Errno " ++ toString number ++ "] " ++ words ++ ": " ++ Text.literal trouble.path.text
  | none => "embedded null byte"

end TableTypes.Files
