import WordSwap.Session.Run

namespace WordSwap

open Files

/-- The number of a system error, which some calls report with its sign turned. -/
def errorNumber (code : UInt32) : Nat := min code.toNat (0 - code).toNat

def osFault (e : IO.Error) : OsFault :=
  match e with
  | .noFileOrDirectory .. | .noSuchThing .. => .notFound
  | .alreadyExists .. => .exists
  | .resourceBusy .. => .busy
  | .inappropriateType _ code _ =>
    if errorNumber code = 20 then .notDirectory
    else if errorNumber code = 21 then .isDirectory
    else .other (toString e)
  | .invalidArgument _ code _ =>
    if errorNumber code = 36 then .nameTooLong else .invalidArgument
  | e => .other (toString e)

def attempt {α : Type} (action : IO α) : IO (Except OsFault α) := do
  try
    return .ok (← action)
  catch e =>
    return .error (osFault e)

instance : Access IO where
  Temporary := String
  readFile path := attempt do
    return (← IO.FS.readBinFile (String.ofList path)).data.toList
  createDirectory path := attempt (IO.FS.createDir (String.ofList path))
  isDirectory path := do
    match ← attempt (IO.FS.realPath (String.ofList path)) with
    | .error _ => return false
    | .ok real => real.isDir
  createTemporary directory := attempt do
    let path := String.ofList directory ++ "/.tmp" ++ toString (← IO.rand 100000 999999)
    let _ ← IO.FS.Handle.mk path .writeNew
    return path
  writeTemporary path content := attempt (IO.FS.writeBinFile path ⟨content.toArray⟩)
  renameTemporary path newPath := attempt (IO.FS.rename path (String.ofList newPath))
  removeTemporary path := do
    let _ ← attempt (IO.FS.removeFile path)

def usage : String :=
  "usage: wordswap [generate [-r FILE] [-o FILE] [--print] [-v] | analyze [-r FILE] [-v]]"

end WordSwap

open WordSwap in
def main (args : List String) : IO UInt32 := do
  match Command.parse args with
  | none =>
    IO.eprintln usage
    return 2
  | some command =>
    let report : Report ← Session.perform command
    for l in report.log do
      IO.println l.line
    IO.print report.output
    IO.eprint report.errors
    return report.exitCode.toUInt32
