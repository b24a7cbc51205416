import WireShadow.Command.Run

namespace WireShadow.SystemDisk

/-- The number of a fault, which the system may give with either sign. -/
def unsigned (number : UInt32) : UInt32 := if number ≤ 0 - number then number else 0 - number

def faultOf (e : IO.Error) : DiskFault :=
  match e with
  | .noFileOrDirectory _ _ _ | .noSuchThing _ _ _ => .noEntry
  | .alreadyExists _ _ _ => .alreadyExists
  | .inappropriateType _ number _ | .invalidArgument _ number _ =>
    if unsigned number = 20 then .notDirectory
    else if unsigned number = 21 then .isDirectory
    else if unsigned number = 36 then .nameTooLong
    else .other (toString e)
  | e => .other (toString e)

def attempt {α : Type} (action : IO α) : IO (Except DiskFault α) := do
  return (← action.toBaseIO).mapError faultOf

def readText (path : String) : IO (Except DiskFault String) := do
  match ← attempt (IO.FS.readBinFile path) with
  | .error fault => return .error fault
  | .ok bytes => return (String.fromUTF8? bytes).elim (.error .notText) .ok

def hasType (path : String) (type : IO.FS.FileType) : IO Bool := do
  let found ← attempt do return (← (← IO.FS.realPath path).metadata).type
  return found.toOption == some type

instance : Disk IO where
  read := readText
  isFile path := hasType path .file
  isDirectory path := hasType path .dir
  makeDirectory path := attempt (IO.FS.createDir path)
  write path text := attempt (IO.FS.writeFile path text)

end WireShadow.SystemDisk

def main (arguments : List String) : IO UInt32 := do
  let outcome : WireShadow.Outcome ← WireShadow.Arguments.run arguments
  (← IO.getStdout).putStr outcome.out
  (← IO.getStderr).putStr outcome.err
  return outcome.exit
