import WireShadow.Toml.Scalar

namespace WireShadow.Toml

/-- How many arrays and tables between braces may stand inside each other, and how many keys may be
joined by points. -/
def levels : Nat := 80

def skipBlanks (cs : List Char) : List Char := cs.dropWhile isInlineBlank

def skipComment : List Char → Option (List Char)
  | '#' :: cs =>
    let rest := cs.dropWhile isPlain
    if rest.isEmpty || (lineEnd? rest).isSome then some rest else none
  | cs => some cs

def skipTrivia : Nat → List Char → Option (List Char)
  | 0, _ => none
  | fuel + 1, cs => do
    let rest ← skipComment (skipBlanks cs)
    match lineEnd? rest with
    | some rest => skipTrivia fuel rest
    | none => some rest

def endLine (cs : List Char) : Option (List Char) := do
  match ← skipComment (skipBlanks cs) with
  | [] => some []
  | rest => lineEnd? rest

def readKeys : Nat → List Char → Option ((List String × String) × List Char)
  | 0, _ => none
  | fuel + 1, cs => do
    let (key, rest) ← readKey (skipBlanks cs)
    match skipBlanks rest with
    | '.' :: rest =>
      let ((path, last), rest) ← readKeys fuel rest
      return ((key :: path, last), rest)
    | rest => return (([], key), rest)

def readPath (fuel : Nat) (cs : List Char) : Option ((List String × String) × List Char) := do
  let ((path, last), rest) ← readKeys fuel cs
  if path.length < levels then return ((path, last), rest) else none

def readAssigned (fuel : Nat) (cs : List Char) : Option ((List String × String) × List Char) := do
  let (path, rest) ← readPath fuel cs
  match rest with
  | '=' :: rest => return (path, skipBlanks rest)
  | _ => none

mutual

def readValue : Nat → Nat → List Char → Option (Value × List Char)
  | 0, _, _ => none
  | fuel + 1, left, cs =>
    match cs, left with
    | '"' :: '"' :: '"' :: cs, _ =>
      (readLongBasic fuel [] ((lineEnd? cs).getD cs)).map fun (s, rest) => (.string s, rest)
    | '\'' :: '\'' :: '\'' :: cs, _ =>
      (readLongLiteral fuel [] ((lineEnd? cs).getD cs)).map fun (s, rest) => (.string s, rest)
    | '"' :: cs, _ => (readBasic [] cs).map fun (s, rest) => (.string s, rest)
    | '\'' :: cs, _ => (readLiteral [] cs).map fun (s, rest) => (.string s, rest)
    | '[' :: _, 0 | '\x7b' :: _, 0 => none
    | '[' :: cs, left + 1 => (readItems fuel left cs).map fun (items, rest) => (.array items, rest)
    | '\x7b' :: cs, left + 1 =>
      (readInline fuel left [] cs).map fun (entries, rest) => (.table .braces entries, rest)
    | cs, _ => (scalar? (word cs)).map fun value => (value, cs.drop (word cs).length)

def readItems : Nat → Nat → List Char → Option (List Value × List Char)
  | 0, _, _ => none
  | fuel + 1, left, cs => do
    match ← skipTrivia fuel cs with
    | ']' :: rest => return ([], rest)
    | cs =>
      let (item, rest) ← readValue fuel left cs
      match ← skipTrivia fuel rest with
      | ',' :: rest =>
        let (items, rest) ← readItems fuel left rest
        return (item :: items, rest)
      | ']' :: rest => return ([item], rest)
      | _ => none

def readInline : Nat → Nat → Entries → List Char → Option (Entries × List Char)
  | 0, _, _, _ => none
  | fuel + 1, left, entries, cs => do
    match ← skipTrivia fuel cs with
    | '\x7d' :: rest => return (entries, rest)
    | cs =>
      let ((path, key), rest) ← readAssigned fuel cs
      let (value, rest) ← readValue fuel left rest
      let entries ← entries.assign path key value
      match ← skipTrivia fuel rest with
      | ',' :: rest => readInline fuel left entries rest
      | '\x7d' :: rest => return (entries, rest)
      | _ => none

end

structure Document where
  entries : Entries := []
  table : List String := []

namespace Document

def readLine (fuel : Nat) (d : Document) (cs : List Char) : Option (Document × List Char) := do
  match cs with
  | '[' :: '[' :: cs =>
    let ((path, key), rest) ← readPath fuel cs
    match rest with
    | ']' :: ']' :: rest => return (⟨← d.entries.openNext path key, path ++ [key]⟩, rest)
    | _ => none
  | '[' :: cs =>
    let ((path, key), rest) ← readPath fuel cs
    match rest with
    | ']' :: rest => return (⟨← d.entries.openTable path key, path ++ [key]⟩, rest)
    | _ => none
  | cs =>
    let ((path, key), rest) ← readAssigned fuel cs
    let (value, rest) ← readValue fuel levels rest
    return ({ d with entries := ← d.entries.assignIn d.table path key value }, rest)

def readLines : Nat → Document → List Char → Option Document
  | 0, _, _ => none
  | fuel + 1, d, cs => do
    match ← skipTrivia fuel cs with
    | [] => return d
    | cs =>
      let (d, rest) ← d.readLine fuel cs
      readLines fuel d (← endLine rest)

/-- Reads a text, which a byte order mark may precede. -/
def read (s : String) : Option Entries :=
  let cs := match s.toList with
    | '\uFEFF' :: cs => cs
    | cs => cs
  (readLines (2 * cs.length + 3) {} cs).map (·.entries)

end Document

end WireShadow.Toml
