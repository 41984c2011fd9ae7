/-
# IdlBindings.Main: the command line on the real disk, without a network.
-/
import IdlBindings.CommandLine.Run

namespace IdlBindings

/-- The fault of a failed operation of the system. -/
def FileFault.ofError : IO.Error → FileFault
  | .noFileOrDirectory .. => .notFound
  | .alreadyExists .. => .alreadyExists
  | .inappropriateType _ 20 _ => .notDirectory
  | .inappropriateType _ 21 _ => .isDirectory
  | .inappropriateType .. => .notDirectory
  | error => .other (toString error)

/-- Runs an operation of the system. -/
def attempt {α : Type} (action : IO α) : IO (Except FileFault α) := do
  try
    return .ok (← action)
  catch error =>
    return .error (.ofError error)

/-- The text of a file. -/
def readText (path : String) : IO (Except FileFault String) := do
  match ← attempt (IO.FS.readBinFile path) with
  | .error fault => return .error fault
  | .ok octets =>
    match String.fromUTF8? octets with
    | some text => return .ok text
    | none => return .error .notText

/-- The disk of the system. -/
def Disk.system : Disk IO where
  read := readText
  isDirectory path := do
    match ← attempt (IO.FS.realPath path) with
    | .ok found => found.isDir
    | .error _ => return false
  makeDirectory path := attempt (IO.FS.createDir path)
  write path text := attempt (IO.FS.writeFile path text)
  remove path := attempt (IO.FS.removeFile path)

end IdlBindings

/-- Runs the command line and prints its outcome. -/
def main (arguments : List String) : IO UInt32 := do
  let outcome ← IdlBindings.CommandLine.run IdlBindings.Disk.system arguments
  (← IO.getStdout).putStr outcome.stdout
  (← IO.getStderr).putStr outcome.stderr
  return outcome.exit
