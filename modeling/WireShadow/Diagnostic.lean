import WireShadow.Declaration.Writing

namespace WireShadow

inductive Severity
  | error | warning | info
deriving DecidableEq, Repr, Inhabited

def Severity.name : Severity → String
  | error => "error"
  | warning => "warning"
  | info => "info"

inductive Rule
  | missingContract
  | nestedInClosed
  | notShadowed
  | baseNotChained
  | duplicateTag
  | malformedOptions
  | duplicateMember
deriving DecidableEq, Repr, Inhabited

namespace Rule

def number : Rule → Nat
  | missingContract => 1
  | nestedInClosed => 2
  | notShadowed => 3
  | baseNotChained => 4
  | duplicateTag => 5
  | malformedOptions => 6
  | duplicateMember => 7

def code (r : Rule) : String := "Proto0" ++ toString r.number

def severity : Rule → Severity
  | missingContract | nestedInClosed => .error
  | duplicateTag | malformedOptions | duplicateMember => .warning
  | notShadowed | baseNotChained => .info

def title : Rule → String
  | missingContract => "Property type is not a partial contract type"
  | nestedInClosed => "Enclosing type of a contract type is not partial"
  | notShadowed => "Property cannot be shadowed"
  | baseNotChained => "Base type does not include the derived type"
  | duplicateTag => "Explicit tag is claimed more than once"
  | malformedOptions => "Generator options do not name an attribute type"
  | duplicateMember => "Synthesized member name is already in use"

end Rule

structure Diagnostic where
  rule : Rule
  location : Location
  message : String
deriving DecidableEq, Repr, Inhabited

namespace Diagnostic

def severity (d : Diagnostic) : Severity := d.rule.severity

def isError (d : Diagnostic) : Bool := d.severity == .error

/-- Diagnostics are listed by place, and at one place by rule. -/
def le (x y : Diagnostic) : Bool :=
  ((x.location.compare y.location).then (compare x.rule.number y.rule.number)).isLE

def sort (ds : List Diagnostic) : List Diagnostic := ds.mergeSort le

def text (d : Diagnostic) : String :=
  d.location.text ++ ": " ++ d.severity.name ++ " " ++ d.rule.code ++ ": " ++ d.message

def toJson (d : Diagnostic) : Json.Value :=
  .object [("rule", .string d.rule.code), ("severity", .string d.severity.name),
    ("location", d.location.toJson), ("message", .string d.message)]

def listing (ds : List Diagnostic) : String :=
  String.intercalate "\n" <| ds.map text ++
    [toString ds.length ++ " diagnostic(s), " ++ toString (ds.countP (·.isError)) ++ " error(s)"]

def jsonListing (ds : List Diagnostic) : String := (Json.Value.array (ds.map toJson)).pretty

end Diagnostic

end WireShadow
