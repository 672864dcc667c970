import WordSwap.Files.Path

namespace WordSwap.Files

inductive OsFault where
  | notFound
  | busy
  | exists
  | notDirectory
  | isDirectory
  | invalidArgument
  | nameTooLong
  | nulInPath
  | notUtf8
  | other (message : String)
  deriving DecidableEq, Repr

def OsFault.message : OsFault → String
  | .notFound => "No such file or directory (os error 2)"
  | .busy => "Device or resource busy (os error 16)"
  | .exists => "File exists (os error 17)"
  | .notDirectory => "Not a directory (os error 20)"
  | .isDirectory => "Is a directory (os error 21)"
  | .invalidArgument => "Invalid argument (os error 22)"
  | .nameTooLong => "File name too long (os error 36)"
  | .nulInPath => "file name contained an unexpected NUL byte"
  | .notUtf8 => "stream did not contain valid UTF-8"
  | .other message => message

class Access (m : Type → Type) where
  Temporary : Type
  readFile : List Char → m (Except OsFault (List UInt8))
  createDirectory : List Char → m (Except OsFault Unit)
  isDirectory : List Char → m Bool
  createTemporary : List Char → m (Except OsFault Temporary)
  writeTemporary : Temporary → List UInt8 → m (Except OsFault Unit)
  renameTemporary : Temporary → List Char → m (Except OsFault Unit)
  removeTemporary : Temporary → m Unit

section

variable {m : Type → Type} [Monad m] [Access m]

/-- Creates the first of the directories after those that it stands in, which follow it in the
list. A directory that is there already is left as it is. -/
def createDirectories : List Path.Course → m (Except OsFault Unit)
  | [] => return .ok ()
  | dir :: around => do
    match ← Access.createDirectory dir.path with
    | .ok () => return .ok ()
    | .error .notFound =>
      match ← createDirectories around with
      | .error fault => return .error fault
      | .ok () => settle dir (← Access.createDirectory dir.path)
    | .error fault => settle dir (.error fault)
where
  settle (dir : Path.Course) : Except OsFault Unit → m (Except OsFault Unit)
    | .ok () => return .ok ()
    | .error fault => return if ← Access.isDirectory dir.path then .ok () else .error fault

end

end WordSwap.Files
