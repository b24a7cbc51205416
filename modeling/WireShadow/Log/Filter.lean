import WireShadow.Log.Level
import WireShadow.Text.Letter

namespace WireShadow.Log

structure Directive where
  level : Level := .trace
  target : Option String := none
  span : Option String := none
  field : Option String := none
deriving DecidableEq, Repr, Inhabited

namespace Directive

/-- A level in a directive is a name or a number, which counts from nothing to everything. -/
def level? (cs : List Char) : Option Level :=
  let digits := match cs with
    | '+' :: cs => cs
    | cs => cs
  if !digits.isEmpty && digits.all Char.isDigit then
    match (digits.dropWhile (· == '0')) with
    | [] => some .off
    | [d] => Level.all.reverse[d.toNat - '0'.toNat]?
    | _ => none
  else Level.all.find? fun l => Level.sameName (String.ofList cs) l.name

def levelOf (cs : List Char) : Option Level := if cs.isEmpty then some .trace else level? cs

def finish (d : Directive) : List Char → Option Directive
  | [] => some d
  | '=' :: cs => (levelOf cs).map fun level => { d with level }
  | _ => none

def readSpan (d : Directive) (cs : List Char) : Option Directive :=
  let name := cs.takeWhile fun c => c != ']' && c != '\x7b'
  match cs.drop name.length with
  | ']' :: cs => finish { d with span := some (String.ofList name) } cs
  | _ :: cs =>
    let field := cs.takeWhile (· != '\x7d')
    let span := if name.isEmpty then none else some (String.ofList name)
    match field, cs.drop field.length with
    | _ :: _, '\x7d' :: ']' :: cs => finish { d with span, field := some (String.ofList field) } cs
    | _, _ => none
  | [] => none

def canStart (c : Char) : Bool := c == '-' || c == ':' || c == '_' || Text.isLetter c || Text.isNumeral c

/-- A directive, if the text is one. A word that is no level is a target, of which everything is
logged. -/
def ofText? (cs : List Char) : Option Directive :=
  match cs with
  | [] => none
  | '[' :: cs => readSpan {} cs
  | c :: _ =>
    if canStart c then
      let word := cs.takeWhile fun c => c != '=' && c != '['
      match cs.drop word.length with
      | [] =>
        match level? word with
        | some level => some { level }
        | none => some { target := some (String.ofList word) }
      | '[' :: rest => readSpan { target := some (String.ofList word) } rest
      | rest => finish { target := some (String.ofList word) } rest
    else none

def sameScope (x y : Directive) : Bool := x.target == y.target && x.span == y.span && x.field == y.field

def hasValue (d : Directive) : Bool := d.field.any fun field => field.toList.contains '='

end Directive

def pieces (text : String) : List (List Char) := (text.toList.splitOnP (· == ',')).filter (!·.isEmpty)

/-- A library of filters, as far as one is built for a run: how a directive is read, the filter for a default level
and a text of directives, and the most verbose level that a filter may log. -/
structure FilterLibrary (F : Type) where
  read : List Char → Option Directive
  parse : Level → String → F
  maxLevel : F → Level

namespace FilterLibrary

variable {F : Type} (lib : FilterLibrary F)

def readable (text : String) : List Directive := (pieces text).filterMap lib.read

def build (level : Level) (directives : Option String) : F :=
  match directives.map Text.trim with
  | some text => if text.isEmpty then lib.parse level "" else lib.parse level text
  | none => lib.parse level ""

end FilterLibrary

/-- The directives of a filter, of which each scope has one, and the most verbose level that came with any. -/
structure Filter where
  directives : List Directive := []
  verbosity : Level := .off
deriving Inhabited

namespace Filter

/-- Adds a directive in place of an earlier one for the same events, whose level still counts. -/
def add (f : Filter) (d : Directive) : Filter where
  directives := f.directives.filter (!·.sameScope d) ++ [d]
  verbosity := f.verbosity.max d.level

/-- Of a text of directives, those that cannot be read are left out. Only if none is left, the default level holds
for everything. -/
def parse (level : Level) (text : String) : Filter :=
  let directives := (pieces text).filterMap Directive.ofText?
  (if directives.isEmpty then [{ level }] else directives).foldl add {}

def maxLevel (f : Filter) : Level := if f.directives.any (·.hasValue) then .trace else f.verbosity

def library : FilterLibrary Filter where
  read := Directive.ofText?
  parse := parse
  maxLevel := maxLevel

def build (level : Level) (directives : Option String) : Filter := library.build level directives

end Filter

end WireShadow.Log
