import WireShadow.Declaration
import WireShadow.Vocabulary

namespace WireShadow

/-- What the attributes of a property say about its tag. A property with a marker is left to its
author; the marker may claim a tag. -/
inductive TagMarker
  | untagged
  | explicit (tag : Option Nat)
deriving DecidableEq, Repr, Inhabited

inductive OptionsMarker
  | absent
  | attributeType (name : String)
  | malformed
deriving DecidableEq, Repr, Inhabited

/-- A derived type that a type declares as part of its contract. -/
structure Inclusion where
  slot : Option Int64
  derived : Option String
deriving DecidableEq, Repr, Inhabited

variable (v : Vocabulary)

def hasContract (attributes : List Attribute) : Bool := attributes.any fun a => v.isContract a.name

def TypeDecl.isRoot (d : TypeDecl) : Bool := d.isPartial && hasContract v d.attributes

def validTag? (n : Int64) : Option Nat :=
  if 1 ≤ n.toInt ∧ n.toInt.toNat < UInt32.size then some n.toInt.toNat else none

def Attribute.tag? (a : Attribute) : Option Nat :=
  a.arguments.findSome? fun
    | .int n => validTag? n
    | _ => none

/-- A further marker claims its tag unless one before has claimed a tag. -/
def TagMarker.claim (marker : TagMarker) (tag : Option Nat) : TagMarker :=
  match marker with
  | .explicit (some claimed) => .explicit (some claimed)
  | _ => .explicit tag

def tagMarker (attributes : List Attribute) : TagMarker :=
  attributes.foldl (fun marker a => if v.isManual a.name then marker.claim a.tag? else marker) .untagged

def Property.marker (p : Property) : TagMarker := tagMarker v p.attributes

def TypeDecl.options (d : TypeDecl) : OptionsMarker :=
  match d.attributes.find? fun a => v.isOptions a.name with
  | none => .absent
  | some a =>
    match a.named.get? v.optionsProperty with
    | some (.type name) => if Text.allBlank name then .malformed else .attributeType (TypeName.normalize name)
    | _ => .malformed

def TypeDecl.customAttribute (d : TypeDecl) : Option String :=
  match d.options v with
  | .attributeType name => some name
  | _ => none

/-- The type in an argument of an inclusion. A text names it before the first comma, and may be empty
there. -/
def AttributeValue.derived? : AttributeValue → Option String
  | .type name => some (TypeName.normalize name)
  | .string text =>
    let name := TypeName.normalize (String.ofList (text.toList.takeWhile (· != ',')))
    if name.isEmpty then none else some name
  | _ => none

def TypeDecl.inclusions (d : TypeDecl) : List Inclusion :=
  (d.attributes.filter fun a => v.isInclusion a.name).map fun a =>
    { slot := a.firstInt, derived := a.arguments.findSome? AttributeValue.derived? }

def TypeDecl.includes (d : TypeDecl) (derived : String) : Bool :=
  hasContract v d.attributes && (d.inclusions v).any (·.derived == some derived)

end WireShadow
