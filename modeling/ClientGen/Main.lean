import ClientGen.CommandLine.Run

/-!
# The command line

Runs on the files of the machine.
-/

namespace ClientGen.CommandLine

/-- The fault that an error of the machine stands for. -/
def faultOf : IO.Error → FileFault
  | .noFileOrDirectory .. => .notFound
  | .permissionDenied .. => .denied
  | .alreadyExists .. => .present
  | .inappropriateType .. => .notDirectory
  | e => .other (toString e)

/-- An action with its error as a fault. -/
def attempt (action : IO α) : IO (Except FileFault α) := do
  match ← action.toBaseIO with
  | .ok a => return .ok a
  | .error e => return .error (faultOf e)

/-- The content of a file of the machine. -/
def readText (path : String) : IO (Except FileFault String) := do
  match ← attempt (IO.FS.readBinFile path) with
  | .error fault => return .error fault
  | .ok bytes =>
    match String.fromUTF8? bytes with
    | some text => return .ok text
    | none => return .error .notText

/-- Makes a directory of the machine. -/
def makePath (path : String) : IO (Except FileFault Unit) :=
  if path.isEmpty then return .ok () else attempt (IO.FS.createDirAll path)

/-- Whether the machine has something at a path. -/
def hasPath (path : String) : IO Bool := do
  match ← attempt (IO.FS.readBinFile path) with
  | .error .notFound => return false
  | _ => return true

/-- The files of the machine. -/
def machineFiles : Files IO where
  has := hasPath
  read := readText
  makeDirectory := makePath
  write path content := attempt (IO.FS.writeFile path content)

end ClientGen.CommandLine

/-- Runs with the arguments of the process. -/
def main (args : List String) : IO UInt32 := do
  let outcome ← ClientGen.CommandLine.run ClientGen.CommandLine.machineFiles args
  for notice in outcome.notices do
    IO.eprintln notice.line
  IO.print outcome.output
  IO.eprint outcome.errors
  return outcome.code.toUInt32
