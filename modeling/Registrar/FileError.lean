/-!
# What goes wrong with files
-/

namespace Registrar

/-- Why an operation on a file failed. -/
inductive FileError
  | notFound
  | alreadyExists
  | notADirectory
  | isADirectory
  | nameTooLong
  | tooManyLinks
  | zeroInPath
  | notText
  deriving DecidableEq, Repr

namespace FileError

/-- The failure in the words of the operating system, where it is one that the system reports. -/
def message : FileError → String
  | notFound => "No such file or directory (os error 2)"
  | alreadyExists => "File exists (os error 17)"
  | notADirectory => "Not a directory (os error 20)"
  | isADirectory => "Is a directory (os error 21)"
  | nameTooLong => "File name too long (os error 36)"
  | tooManyLinks => "Too many levels of symbolic links (os error 40)"
  | zeroInPath => "file name contained an unexpected NUL byte"
  | notText => "stream did not contain valid UTF-8"

end FileError

end Registrar
