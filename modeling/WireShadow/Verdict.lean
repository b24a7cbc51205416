import WireShadow.Shape
import WireShadow.Tag

namespace WireShadow

inductive Verdict
  | static
  | skipped (tag : Option Nat)
  | missingContract (typeName : String)
  | notAuto
  | missingAccessor
  | generate (shape : Shape) (isInitOnly : Bool)
deriving DecidableEq, Repr, Inhabited

def Verdict.isStructural : Verdict → Bool
  | notAuto | missingAccessor => true
  | _ => false

namespace Property

/-- Why a property cannot be shadowed whatever its type is: an accessor has a body, or there is no
getter or no setter that writes. -/
def structuralMiss (p : Property) : Option Verdict :=
  if !p.isAuto then some .notAuto
  else if p.getter.isSome && p.setter.any (!·.isReadOnly) then none
  else some .missingAccessor

def verdict (g : Graph) (v : Vocabulary) (p : Property) : Verdict :=
  if p.isStatic then .static
  else
    match p.marker v with
    | .explicit tag => .skipped tag
    | .untagged =>
      match p.type.classify g v with
      | .missingContract name => .missingContract name
      | .shape shape => p.structuralMiss.getD (.generate shape p.isInitOnly)

end Property

structure Candidate where
  property : Property
  shape : Shape
  isInitOnly : Bool
deriving Inhabited

structure RootAnalysis where
  node : TypeNode
  claimed : TagSet
  candidates : List Candidate
  customAttribute : Option String
deriving Inhabited

def Property.candidate? (g : Graph) (v : Vocabulary) (p : Property) : Option Candidate :=
  match p.verdict g v with
  | .generate shape isInitOnly => some { property := p, shape, isInitOnly }
  | _ => none

def Property.claimed? (g : Graph) (v : Vocabulary) (p : Property) : Option Nat :=
  match p.verdict g v with
  | .skipped tag => tag
  | _ => none

def TypeNode.analysis (g : Graph) (v : Vocabulary) (node : TypeNode) : RootAnalysis :=
  { node
    claimed := .ofList (node.decl.properties.filterMap (·.claimed? g v))
    candidates := node.decl.properties.filterMap (·.candidate? g v)
    customAttribute := node.decl.customAttribute v }

end WireShadow
