/-!
# Faults of files

A file that a command names may not be there, or it may not be a file. `FileFault.message` is what is
shown then, in the words of the operating system.
-/

namespace Tabletop.Console

inductive FileFault where
  | missing
  | isDirectory
  | notDirectory
  | refused
  | nameTooLong
  | holdsNul
  | notText
  | other (message : String)
deriving DecidableEq

def FileFault.message : FileFault → String
  | .missing => "No such file or directory (os error 2)"
  | .isDirectory => "Is a directory (os error 21)"
  | .notDirectory => "Not a directory (os error 20)"
  | .refused => "Permission denied (os error 13)"
  | .nameTooLong => "File name too long (os error 36)"
  | .holdsNul => "file name contained an unexpected NUL byte"
  | .notText => "stream did not contain valid UTF-8"
  | .other message => message

end Tabletop.Console
