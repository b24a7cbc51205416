import WireShadow.Disk

namespace WireShadow

/-- A write that breaks off, and what it leaves: the first characters of the text. -/
structure Break where
  kept : Nat
  fault : DiskFault
deriving Repr

/-- Files and directories held in memory. An entry's place is the names on the way from the root. The
working directory and those around it are always there. Of the writes to come some may break off. -/
structure FileTree where
  workingDirectory : List String := ["work"]
  entries : List (List String × Option String) := []
  breaks : List (Option Break) := []
deriving Repr, Inhabited

namespace FileTree

inductive Entry
  | file (text : String)
  | directory
deriving DecidableEq, Repr

def get? (t : FileTree) (place : List String) : Option Entry :=
  if place.isPrefixOf t.workingDirectory then some .directory
  else (t.entries.lookup place).map fun text => text.elim .directory .file

def put (t : FileTree) (place : List String) (text : Option String) : FileTree :=
  { t with entries := t.entries.filter (·.1 != place) ++ [(place, text)] }

/-- Follows names from a place. There must be a directory wherever a name is looked up, but the last
name may lead to a place where nothing is. -/
def follow (t : FileTree) (place : List String) : List String → Except DiskFault (List String)
  | [] => .ok place
  | name :: names =>
    match t.get? place with
    | none => .error .noEntry
    | some (.file _) => .error .notDirectory
    | some .directory =>
      if name == "" || name == "." then t.follow place names
      else if name == ".." then t.follow place.dropLast names
      else if 255 < name.utf8ByteSize then .error .nameTooLong
      else t.follow (place ++ [name]) names

def find (t : FileTree) (path : String) : Except DiskFault (List String) :=
  if path.toList.contains '\x00' then .error .nulInPath
  else if path.isEmpty then .error .noEntry
  else if 4096 ≤ path.utf8ByteSize then .error .nameTooLong
  else t.follow (if Path.isAbsolute path then [] else t.workingDirectory) (Path.names path)

/-- The place for something new: slashes at the end of a path say only that it is a directory. -/
def findNew (t : FileTree) (path : String) : Except DiskFault (List String) :=
  let shortened := (path.toList.reverse.dropWhile (· == '/')).reverse
  t.find (if shortened.isEmpty then path else String.ofList shortened)

def read (t : FileTree) (path : String) : Except DiskFault String := do
  match t.get? (← t.find path) with
  | none => .error .noEntry
  | some .directory => .error .isDirectory
  | some (.file text) => return text

def isFile (t : FileTree) (path : String) : Bool := (t.read path).toBool

def isDirectory (t : FileTree) (path : String) : Bool :=
  match t.find path with
  | .ok place => t.get? place == some .directory
  | .error _ => false

def makeDirectory (path : String) : StateM FileTree (Except DiskFault Unit) := fun t =>
  match t.findNew path with
  | .error fault => (.error fault, t)
  | .ok place => if (t.get? place).isSome then (.error .alreadyExists, t) else (.ok (), t.put place none)

def findFile (t : FileTree) (path : String) : Except DiskFault (List String) := do
  let place ← t.findNew path
  match t.get? place with
  | some .directory => .error .isDirectory
  | some (.file _) => if Path.endsOpen path then .error .notDirectory else return place
  | none => if Path.endsOpen path then .error .isDirectory else return place

def afterWrite (t : FileTree) : FileTree := { t with breaks := t.breaks.tail }

/-- Writes a file. What it held before is gone as soon as there is a place for it, also if the write breaks off. -/
def write (path text : String) : StateM FileTree (Except DiskFault Unit) := fun t =>
  match t.findFile path with
  | .error fault => (.error fault, t)
  | .ok place =>
    match t.breaks.head?.join with
    | none => (.ok (), t.afterWrite.put place text)
    | some broken =>
      (.error broken.fault, t.afterWrite.put place (String.ofList (text.toList.take broken.kept)))

end FileTree

instance : Disk (StateM FileTree) where
  read path := do return (← get).read path
  isFile path := do return (← get).isFile path
  isDirectory path := do return (← get).isDirectory path
  makeDirectory := FileTree.makeDirectory
  write := FileTree.write

end WireShadow
