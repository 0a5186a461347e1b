/-! What can be done with files, and how it can fail. -/
namespace Knitting

inductive FileError where
  | missing
  | present
  | notFolder
  | isFolder
  | nameTooLong
  | nulInName
  | other (reason : String)
  deriving DecidableEq, Repr

def FileError.message : FileError → String
  | .missing => "No such file or directory (os error 2)"
  | .present => "File exists (os error 17)"
  | .notFolder => "Not a directory (os error 20)"
  | .isFolder => "Is a directory (os error 21)"
  | .nameTooLong => "File name too long (os error 36)"
  | .nulInName => "file name contained an unexpected NUL byte"
  | .other reason => reason

/-- Programs that can use files. A path is seen from the working folder. -/
class Files (m : Type → Type) where
  read : String → m (Except FileError String)
  /-- The names in a folder, in any order. -/
  list : String → m (Except FileError (List String))
  /-- Writes a file anew; its folder has to be there. -/
  write : String → String → m (Except FileError Unit)
  /-- Makes a folder and those around it, unless they are there. -/
  makeFolders : String → m (Except FileError Unit)

end Knitting
