namespace WireShadow.Log

inductive Level
  | trace | debug | info | warn | error | off
deriving DecidableEq, Repr, Inhabited

namespace Level

def ordinal : Level → Nat
  | trace => 0
  | debug => 1
  | info => 2
  | warn => 3
  | error => 4
  | off => 5

def name : Level → String
  | trace => "trace"
  | debug => "debug"
  | info => "info"
  | warn => "warn"
  | error => "error"
  | off => "off"

def display (l : Level) : String := String.ofList (l.name.toList.map Char.toUpper)

def all : List Level := [trace, debug, info, warn, error, off]

def sameName (s name : String) : Bool := s.toList.map Char.toLower == name.toList

def ofName? (s : String) : Option Level :=
  if sameName s "warning" then some warn
  else if sameName s "none" then some off
  else all.find? fun l => sameName s l.name

/-- The more verbose of two levels. -/
def max (x y : Level) : Level := if x.ordinal ≤ y.ordinal then x else y

end Level

end WireShadow.Log
