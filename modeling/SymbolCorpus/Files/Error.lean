/-! # Errors of the file system -/

namespace SymbolCorpus

/-- Why a file could not be read or written. -/
inductive FileError where
  /-- There is no such file. -/
  | notFound
  | alreadyExists
  /-- A part of the path that should be a folder is a file. -/
  | notDirectory
  /-- A folder stands where a file should. -/
  | isDirectory
  /-- A part of the path, or all of it, is too long. -/
  | nameTooLong
  /-- The path holds a character that no path may hold. -/
  | invalidPath
  /-- The file is not a text in UTF-8. -/
  | invalidText
  deriving Repr, DecidableEq

/-- What is said of an error. -/
def FileError.message : FileError → String
  | notFound => "No such file or directory (os error 2)"
  | alreadyExists => "File exists (os error 17)"
  | notDirectory => "Not a directory (os error 20)"
  | isDirectory => "Is a directory (os error 21)"
  | nameTooLong => "File name too long (os error 36)"
  | invalidPath => "file name contained an unexpected NUL byte"
  | invalidText => "stream did not contain valid UTF-8"

end SymbolCorpus
