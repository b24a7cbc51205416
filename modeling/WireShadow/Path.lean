namespace WireShadow.Path

def isAbsolute (path : String) : Bool := path.toList.head? == some '/'

def endsOpen (path : String) : Bool := path.toList.getLast? == some '/'

/-- The names of a path. Where two slashes meet, and before and behind the outer ones, there is an
empty name. -/
def names (path : String) : List String := (path.toList.splitOnP (· == '/')).map String.ofList

def join (directory path : String) : String :=
  if isAbsolute path then path
  else if directory.isEmpty || endsOpen directory then directory ++ path
  else directory ++ "/" ++ path

/-- The names that lead somewhere. Of those that stay where they are, only one at the start counts. -/
def steps (path : String) : List String :=
  let moves (names : List String) := names.filter fun name => name != "" && name != "."
  match names path with
  | "." :: rest => "." :: moves rest
  | rest => moves rest

def parents (path : String) : List String :=
  let start := if isAbsolute path then "/" else ""
  let steps := steps path
  ((List.range steps.length).reverse.map fun n =>
    start ++ String.intercalate "/" (steps.take n)).filter (!·.isEmpty)

end WireShadow.Path
