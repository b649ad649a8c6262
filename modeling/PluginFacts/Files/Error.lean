/-
# Errors of the file system

Why a file cannot be read or written, in the words of the system.
-/

namespace PluginFacts

/-- Why a file cannot be read or written. -/
inductive FileError where
  /-- There is no such file. -/
  | notFound
  /-- A part of the path that has to be a directory is none. -/
  | notDirectory
  /-- The file is a directory. -/
  | isDirectory
  /-- The path leads from link to link. -/
  | tooManyLinks
  /-- The content is no text. -/
  | notText
  /-- The system has another reason. -/
  | other (reason : String)
deriving DecidableEq, Repr

/-- The wording of an error. -/
def FileError.message : FileError → String
  | notFound => "No such file or directory (os error 2)"
  | notDirectory => "Not a directory (os error 20)"
  | isDirectory => "Is a directory (os error 21)"
  | tooManyLinks => "Too many levels of symbolic links (os error 40)"
  | notText => "stream did not contain valid UTF-8"
  | other reason => reason

end PluginFacts
