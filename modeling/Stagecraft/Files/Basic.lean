namespace Stagecraft

inductive FileError where
  | notFound
  | alreadyExists
  | notDirectory
  | isDirectory
  | notUtf8
  /-- Any other failure, in the system's words. -/
  | other (reason : String)
  deriving DecidableEq

def FileError.message : FileError → String
  | notFound => "No such file or directory (os error 2)"
  | alreadyExists => "File exists (os error 17)"
  | notDirectory => "Not a directory (os error 20)"
  | isDirectory => "Is a directory (os error 21)"
  | notUtf8 => "stream did not contain valid UTF-8"
  | other reason => reason

end Stagecraft
