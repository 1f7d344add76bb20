/-!
# Failures of the file system

The causes that file operations tell apart.
-/

namespace ClientSynthesis.Files

/-- Why a file operation failed. -/
inductive Kind where
  /-- A component of the path does not exist. -/
  | notFound
  /-- A component that has to be a directory is a file. -/
  | notADirectory
  /-- A directory stands where a file is asked for. -/
  | isADirectory
  /-- The place is taken. -/
  | alreadyExists
  /-- The bytes of a file are not UTF-8 text. -/
  | invalidData
  /-- The path holds a character that no name may hold. -/
  | invalidInput
  /-- The path or a component of it is too long. -/
  | nameTooLong
  deriving DecidableEq, Repr

/-- The cause in words. -/
def Kind.message : Kind → String
  | .notFound => "no such file or directory"
  | .notADirectory => "not a directory"
  | .isADirectory => "is a directory"
  | .alreadyExists => "file exists"
  | .invalidData => "the text is not valid UTF-8"
  | .invalidInput => "the name holds a NUL character"
  | .nameTooLong => "file name too long"

end ClientSynthesis.Files
