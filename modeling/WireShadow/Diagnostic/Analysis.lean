import WireShadow.Diagnostic
import WireShadow.Graph.Walk
import WireShadow.Member

namespace WireShadow

def Rule.diagnostic (rule : Rule) (location : Location) (message : String) : Diagnostic :=
  { rule, location, message }

namespace TypeNode

variable (g : Graph) (v : Vocabulary) (settings : Settings) (node : TypeNode)

def closedAncestor (ancestors : List TypeNode) : List Diagnostic :=
  if hasContract v node.decl.attributes then
    match ancestors.find? (!·.decl.isPartial) with
    | none => []
    | some outer =>
      [Rule.nestedInClosed.diagnostic node.decl.location
        ("Type '" ++ node.qualifiedName ++ "' is nested in '" ++ outer.qualifiedName ++
          "', which must be declared partial")]
  else []

def repeatedTags (claimed : List (Nat × String)) : List Property → List Diagnostic
  | [] => []
  | p :: properties =>
    match p.marker v with
    | .explicit (some tag) =>
      match claimed.lookup tag with
      | some owner =>
        Rule.duplicateTag.diagnostic p.location
          ("Tag " ++ toString tag ++ " on property '" ++ p.name ++ "' is already claimed by '" ++
            owner ++ "'") :: repeatedTags claimed properties
      | none => repeatedTags ((tag, p.name) :: claimed) properties
    | _ => repeatedTags claimed properties

def duplicateTags : List Diagnostic :=
  if hasContract v node.decl.attributes then
    repeatedTags v [] (node.decl.properties.filter (!·.isStatic))
  else []

def badOptions : List Diagnostic :=
  if node.decl.options v = .malformed then
    [Rule.malformedOptions.diagnostic node.decl.location
      ("Generator options on '" ++ node.qualifiedName ++ "' must set '" ++ v.optionsProperty ++
        "' to an attribute type; the default member attribute is used")]
  else []

def propertyDiagnostics (p : Property) : List Diagnostic :=
  if p.isStatic || p.marker v != .untagged then []
  else
    (match p.type.classify g v with
      | .missingContract name =>
        [Rule.missingContract.diagnostic p.location
          ("Property '" ++ p.name ++ "' has type '" ++ name ++
            "', which must be a partial type marked with the contract attribute")]
      | .shape _ => []) ++
    if p.structuralMiss.isSome then
      [Rule.notShadowed.diagnostic p.location
        ("Property '" ++ p.name ++ "' is not an auto-implemented property with a getter and setter; " ++
          "mark it with an explicit tag or ignore it")]
    else []

/-- The bases at which the way up from a type ends without a report. -/
def universalBases : List String := ["System.Object", "System.ValueType", "System.Enum", "object"]

/-- Goes from base type to base type, and gives the first that does not include the one before it,
with that one. The way ends where it comes back to a name; `steps` bounds it. -/
def brokenLink : Nat → List String → String → Option String → Option (String × String)
  | 0, _, _, _ => none
  | _, _, _, none => none
  | steps + 1, visited, derived, some base =>
    if base ∈ universalBases || base ∈ visited then none
    else
      match g.lookup base with
      | none => some (base, derived)
      | some node =>
        if node.decl.includes v derived then
          brokenLink steps (base :: visited) base (node.decl.baseType.map TypeName.normalize)
        else some (base, derived)

/-- The way goes on from a type to one name, so it comes back to a name as soon as it comes back to a
type. One step for each type and one more are enough. -/
def baseChain : List Diagnostic :=
  match brokenLink g v (g.size + 1) [node.qualifiedName] node.qualifiedName
    (node.decl.baseType.map TypeName.normalize) with
  | none => []
  | some (base, derived) =>
    [Rule.baseNotChained.diagnostic node.decl.location
      ("Base type '" ++ base ++ "' must be marked with the contract attribute and include '" ++
        derived ++ "'")]

def memberNames : List (Property × String) :=
  (node.decl.properties.filterMap (·.candidate? g settings.vocabulary)).flatMap fun c =>
    c.shape.members.map fun shape => (c.property, shape.memberName c.property.name settings)

def clashes (declared : List String) (taken : List (String × String)) :
    List (Property × String) → List Diagnostic
  | [] => []
  | (p, name) :: members =>
    let report (owner : String) :=
      Rule.duplicateMember.diagnostic p.location
        ("Member '" ++ name ++ "' generated for property '" ++ p.name ++ "' collides with " ++ owner ++
          "; rename the property or mark it with an explicit tag")
    if name ∈ declared then
      report ("declared property '" ++ name ++ "'") :: clashes declared taken members
    else
      match taken.lookup name with
      | some owner => report ("the member generated for '" ++ owner ++ "'") :: clashes declared taken members
      | none => clashes declared ((name, p.name) :: taken) members

def duplicateMembers : List Diagnostic :=
  clashes (node.decl.properties.map (·.name)) [] (memberNames g settings node)

end TypeNode

namespace Graph

def Visit.diagnostics (g : Graph) (settings : Settings) (visit : Visit) : List Diagnostic :=
  let v := settings.vocabulary
  let node := visit.node
  node.closedAncestor v visit.ancestors ++ node.duplicateTags v ++ node.badOptions v ++
    if node.decl.isRoot v then
      node.decl.properties.flatMap (TypeNode.propertyDiagnostics g v) ++ node.baseChain g v ++
        node.duplicateMembers g settings
    else []

def diagnostics (g : Graph) (settings : Settings) : List Diagnostic :=
  Diagnostic.sort (g.walk.flatMap fun visit => visit.diagnostics g settings)

end Graph

end WireShadow
