namespace WireShadow.Toml

/-- How a table has come into being: on the way to a header, on the way of a dotted key, by a header of
its own, or between braces. -/
inductive Origin
  | passed | dotted | header | braces
deriving DecidableEq, Repr, Inhabited

/-- A value. Of a moment the document's readers here want nothing but its type. -/
inductive Value
  | string (s : String)
  | integer (n : Int)
  | real (x : Float)
  | bool (b : Bool)
  | moment
  | array (items : List Value)
  | tables (items : List Value)
  | table (origin : Origin) (entries : List (String × Value))
deriving Inhabited

abbrev Entries := List (String × Value)

namespace Entries

def replace (key : String) (value : Value) : Entries → Entries
  | [] => []
  | (k, old) :: entries => if k == key then (k, value) :: entries else (k, old) :: replace key value entries

/-- Changes the table at the end of a path, and makes the tables on the way that are missing. Among
several tables of one key the last is meant. A dotted path does not enter tables that have a header
or braces, no path those with braces. -/
def change (isDotted : Bool) (act : Origin → Entries → Option Entries) :
    List String → Origin → Entries → Option Entries
  | [], origin, entries => act origin entries
  | key :: path, _, entries =>
    match entries.lookup key with
    | none =>
      let origin : Origin := if isDotted then .dotted else .passed
      (change isDotted act path origin []).map fun inner => entries ++ [(key, .table origin inner)]
    | some (.table origin inner) =>
      if origin = .braces || isDotted && origin = .header then none
      else (change isDotted act path origin inner).map fun inner => replace key (.table origin inner) entries
    | some (.tables items) =>
      match items.reverse with
      | .table origin inner :: earlier =>
        (change isDotted act path origin inner).map fun inner =>
          replace key (.tables (.table origin inner :: earlier).reverse) entries
      | _ => none
    | some _ => none

/-- Gives a value to a key that has none. At the end of a dotted path only a table is meant that
dotted keys have made. -/
def assign (path : List String) (key : String) (value : Value) (entries : Entries) : Option Entries :=
  change true (fun origin entries =>
    if (path.isEmpty || origin = .dotted) && (entries.lookup key).isNone then some (entries ++ [(key, value)])
    else none) path .header entries

/-- Opens a table by a header. It may have been passed on the way to another. -/
def openTable (path : List String) (key : String) (entries : Entries) : Option Entries :=
  change false (fun _ entries =>
    match entries.lookup key with
    | none => some (entries ++ [(key, .table .header [])])
    | some (.table .passed inner) => some (replace key (.table .header inner) entries)
    | some _ => none) path .header entries

def openNext (path : List String) (key : String) (entries : Entries) : Option Entries :=
  change false (fun _ entries =>
    match entries.lookup key with
    | none => some (entries ++ [(key, .tables [.table .header []])])
    | some (.tables items) => some (replace key (.tables (items ++ [.table .header []])) entries)
    | some _ => none) path .header entries

def assignIn (table : List String) (path : List String) (key : String) (value : Value) (entries : Entries) :
    Option Entries :=
  change false (fun _ entries => entries.assign path key value) table .header entries

end Entries

end WireShadow.Toml
