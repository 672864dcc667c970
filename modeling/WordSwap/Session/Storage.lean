import WordSwap.Files.Access
import WordSwap.Files.Path
import WordSwap.Schema.Document
import WordSwap.Schema.RuleList
import WordSwap.Text.Basic

/-! Loading rules and writing documents. A document goes to a temporary file in its directory, which
then takes the place of the old file: whoever looks at the path sees the old content or the new. -/

namespace WordSwap

open Files

inductive LoadFault where
  | unreadable (path : String) (fault : OsFault)
  | invalid (path : String) (fault : RuleListFault)
  deriving DecidableEq, Repr

def LoadFault.chain : LoadFault → List String
  | .unreadable path fault => ["Failed to read file: " ++ Text.quoted path, fault.message]
  | .invalid path fault => ("Invalid rule file: " ++ Text.quoted path) :: fault.chain

def rulesOfBytes (path : String) (content : List UInt8) : Except LoadFault (List Rule) :=
  match Text.ofUtf8? content with
  | none => .error (.unreadable path .notUtf8)
  | some s =>
    match parseRules s with
    | .error fault => .error (.invalid path fault)
    | .ok rules => .ok rules

def loadRules {m : Type → Type} [Monad m] [Access m] (path : String) :
    m (Except LoadFault (List Rule)) := do
  match ← Access.readFile path.toList with
  | .error fault => return .error (.unreadable path fault)
  | .ok content => return rulesOfBytes path content

open Files

inductive WriteFault where
  | noDirectory (path : String) (fault : OsFault)
  | noTemporary (directory : String) (fault : OsFault)
  | notWritten (fault : OsFault)
  | notReplaced (path : String) (fault : OsFault)
  deriving DecidableEq, Repr

def WriteFault.chain : WriteFault → List String
  | .noDirectory path fault => ["Failed to create directory: " ++ Text.quoted path, fault.message]
  | .noTemporary directory fault =>
    ["Failed to create temporary file in " ++ Text.quoted directory, fault.message]
  | .notWritten fault => ["Failed to write JSON", fault.message]
  | .notReplaced path fault =>
    ["Failed to replace file: " ++ Text.quoted path,
      "failed to persist temporary file: " ++ fault.message, fault.message]

section

variable {m : Type → Type} [Monad m] [Access m]

def fillAndRename (path : String) (content : List UInt8) (temporary : Access.Temporary m) :
    m (Except WriteFault Unit) := do
  match ← Access.writeTemporary temporary content with
  | .error fault => return .error (.notWritten fault)
  | .ok () =>
    match ← Access.renameTemporary temporary path.toList with
    | .error fault => return .error (.notReplaced path fault)
    | .ok () => return .ok ()

def writeFile (path : String) (content : List UInt8) : m (Except WriteFault Unit) := do
  let directory := Path.directory path.toList
  match ← createDirectories (Path.course directory).outward with
  | .error fault => return .error (.noDirectory (String.ofList directory) fault)
  | .ok () =>
    match ← Access.createTemporary directory with
    | .error fault => return .error (.noTemporary (String.ofList directory) fault)
    | .ok temporary =>
      match ← fillAndRename path content temporary with
      | .ok () => return .ok ()
      | .error fault =>
        Access.removeTemporary temporary
        return .error fault

def writeDocument (path : String) (d : Document) : m (Except WriteFault Unit) :=
  writeFile path (Text.utf8 d.text)

end

end WordSwap
