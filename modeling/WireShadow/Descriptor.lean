import WireShadow.CSharp.TypeText
import WireShadow.Verdict

namespace WireShadow

inductive PartialKind
  | «class» | struct | recordClass | recordStruct | interface
deriving DecidableEq, Repr, Inhabited

namespace PartialKind

def keyword : PartialKind → String
  | «class» => "class"
  | struct => "struct"
  | recordClass => "record class"
  | recordStruct => "record struct"
  | interface => "interface"

def ofDecl (d : TypeDecl) : Except Failure PartialKind :=
  match d.kind, d.isRecord with
  | .class, false => .ok .class
  | .class, true => .ok .recordClass
  | .struct, false => .ok .struct
  | .struct, true => .ok .recordStruct
  | .interface, _ => .ok .interface
  | .enum, _ => .error (.invalidGraph (.partialEnum d.name))

end PartialKind

/-- A shadow member: the property it stands for, its shape, and what it is written with. -/
structure Member where
  property : String
  typeText : String := ""
  shape : Shape := .plain
  element0 : Option String := none
  element1 : Option String := none
  isInitOnly : Bool := false
  customAttribute : Option String := none
  tag : Nat := 0
deriving DecidableEq, Repr, Inhabited

structure TypeHead where
  name : String
  namespaceName : String := ""
  kind : PartialKind
  typeParameters : List String := []
  isRecord : Bool := false
  isReferenceType : Bool := false
deriving DecidableEq, Repr, Inhabited

namespace TypeHead

def metadataName (h : TypeHead) : String := TypeRef.withArity h.name h.typeParameters.length

def ofNode (node : TypeNode) : Except Failure TypeHead := do
  let kind ← PartialKind.ofDecl node.decl
  return {
    name := node.decl.name
    namespaceName := node.namespaceName
    kind
    typeParameters := node.decl.typeParameters
    isRecord := node.decl.isRecord
    isReferenceType := node.decl.isReferenceType }

end TypeHead

/-- What is generated for a type: the type, those around it with the innermost first, and its shadow
members. -/
structure TypeDescriptor where
  head : TypeHead
  enclosing : List TypeHead := []
  members : List Member := []
  claimed : TagSet := {}
deriving DecidableEq, Inhabited

namespace Candidate

def member (c : Candidate) (customAttribute : Option String) (shape : Shape) (tag : Nat) : Member :=
  let elements := if shape.isHelper then CSharp.typeTexts c.property.type.arguments else []
  { property := c.property.name
    typeText := CSharp.typeText c.property.type
    shape
    element0 := elements[0]?
    element1 := elements[1]?
    isInitOnly := c.isInitOnly
    customAttribute
    tag }

/-- The members of some candidates in their order, with the next free tag for each. -/
def members (customAttribute : Option String) (allocator : TagAllocator) : List Candidate → List Member
  | [] => []
  | c :: candidates =>
    let (tags, allocator) := allocator.allocateMany c.shape.members.length
    (c.shape.members.zip tags).map (fun (shape, tag) => c.member customAttribute shape tag) ++
      members customAttribute allocator candidates

end Candidate

namespace RootAnalysis

def members (a : RootAnalysis) : List Member :=
  Candidate.members a.customAttribute { claimed := a.claimed } a.candidates

end RootAnalysis

end WireShadow
