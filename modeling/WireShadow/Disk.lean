import WireShadow.Path

namespace WireShadow

inductive DiskFault
  | noEntry
  | alreadyExists
  | notDirectory
  | isDirectory
  | nameTooLong
  | nulInPath
  | notText
  | other (reason : String)
deriving DecidableEq, Repr

namespace DiskFault

def numbered (reason : String) (number : Nat) : String :=
  reason ++ " (os error " ++ toString number ++ ")"

def message : DiskFault → String
  | noEntry => numbered "No such file or directory" 2
  | alreadyExists => numbered "File exists" 17
  | notDirectory => numbered "Not a directory" 20
  | isDirectory => numbered "Is a directory" 21
  | nameTooLong => numbered "File name too long" 36
  | nulInPath => "file name contained an unexpected NUL byte"
  | notText => "stream did not contain valid UTF-8"
  | other reason => reason

end DiskFault

class Disk (m : Type → Type) where
  read (path : String) : m (Except DiskFault String)
  isFile (path : String) : m Bool
  isDirectory (path : String) : m Bool
  makeDirectory (path : String) : m (Except DiskFault Unit)
  write (path text : String) : m (Except DiskFault Unit)

namespace Disk

variable {m : Type → Type} [Monad m] [Disk m]

def ensure (path : String) : m (Except DiskFault Unit) := do
  match ← makeDirectory path with
  | .ok () => return .ok ()
  | .error fault => return if ← isDirectory path then .ok () else .error fault

/-- Makes the first directory of a list, for which the others, its parents, are made as needed. What
was made stays when a later one cannot be made. -/
def ensureAll : List String → m (Except DiskFault Unit)
  | [] => return .ok ()
  | path :: parents => do
    match ← ensure path with
    | .error .noEntry =>
      match ← ensureAll parents with
      | .ok () => ensure path
      | failed => return failed
    | result => return result

/-- Makes a directory and those around it. The working directory, which has no name, is there. -/
def makeDirectories (path : String) : m (Except DiskFault Unit) :=
  if path.isEmpty then return .ok () else ensureAll (path :: Path.parents path)

end Disk

end WireShadow
