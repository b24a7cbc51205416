import WireShadow.Declaration.Reading
import WireShadow.Failure
import WireShadow.TypeName

namespace WireShadow

/-- A declared type with its place among the others. Types are numbered in the order of the
document, each before those nested in it. -/
structure TypeNode where
  id : Nat
  decl : TypeDecl
  parent : Option Nat
  children : List Nat
  qualifiedName : String
  namespaceName : String
deriving Inhabited

/-- What surrounds a declaration: the type it is nested in and the namespace of the outermost one. -/
structure Surroundings where
  parent : Nat
  qualifiedName : String
  namespaceName : String

def qualify (outer name : String) : String := if outer.isEmpty then name else outer ++ "." ++ name

namespace Surroundings

def namespaceOf (around : Option Surroundings) (decl : TypeDecl) : String :=
  match around with
  | none => TypeName.normalize decl.namespaceName
  | some s => s.namespaceName

def nameOf (around : Option Surroundings) (decl : TypeDecl) : String :=
  match around with
  | none => qualify (TypeName.normalize decl.namespaceName) decl.name
  | some s => s.qualifiedName ++ "." ++ decl.name

end Surroundings

/-- All declared types, by number, the numbers of those that are nested in no other, and the number of
each qualified name. -/
structure Graph where
  nodes : List TypeNode := []
  topLevel : List Nat := []
  numbers : List (String × Nat) := []
deriving Inhabited

namespace Graph

section

variable (g : Graph)

def size : Nat := g.nodes.length

def node? (id : Nat) : Option TypeNode := g.nodes[id]?

def push (around : Option Surroundings) (decl : TypeDecl) : Graph :=
  let qualifiedName := Surroundings.nameOf around decl
  let node : TypeNode :=
    { id := g.size, decl, parent := around.map (·.parent), children := [], qualifiedName
      namespaceName := Surroundings.namespaceOf around decl }
  { g with nodes := g.nodes ++ [node], numbers := g.numbers ++ [(qualifiedName, g.size)] }

def addChild (outer child : Nat) : Graph :=
  { g with nodes := g.nodes.modify outer fun node => { node with children := node.children ++ [child] } }

def addTopLevel (id : Nat) : Graph := { g with topLevel := g.topLevel ++ [id] }

end

mutual

def insert (g : Graph) (around : Option Surroundings) : DeclTree → Except GraphDefect (Nat × Graph)
  | .node decl nested =>
    let qualifiedName := Surroundings.nameOf around decl
    if Text.allBlank decl.name then .error .blankName
    else if (g.numbers.lookup qualifiedName).isSome then .error (.duplicateType qualifiedName)
    else do
      let inner : Surroundings :=
        { parent := g.size, qualifiedName, namespaceName := Surroundings.namespaceOf around decl }
      let grown ← insertNested (g.push around decl) inner nested
      return (g.size, grown)

/-- Inserts the declarations inside a type, each of which is noted there once all inside it is inserted. -/
def insertNested (g : Graph) (outer : Surroundings) : List DeclTree → Except GraphDefect Graph
  | [] => return g
  | tree :: trees => do
    let (child, grown) ← insert g (some outer) tree
    insertNested (grown.addChild outer.parent child) outer trees

end

def insertAll (g : Graph) : List DeclTree → Except GraphDefect Graph
  | [] => return g
  | tree :: trees => do
    let (id, grown) ← g.insert none tree
    insertAll (grown.addTopLevel id) trees

def ofTypes (types : List DeclTree) : Except Failure Graph := (insertAll {} types).mapError .invalidGraph

def ofJson (text : String) : Except Failure Graph :=
  match Json.Decode.document Declaration.types text with
  | .error problem => .error (.serialization problem)
  | .ok types => ofTypes types

variable (g : Graph)

def lookup (name : String) : Option TypeNode := (g.numbers.lookup (TypeName.normalize name)).bind g.node?

def topNodes : List TypeNode := g.topLevel.filterMap g.node?

/-- The types around the one of number `id`, the innermost first. A type comes behind those around
it, so the way outwards ends. -/
def outwards (id : Nat) : Option Nat → List TypeNode
  | none => []
  | some parent =>
    if _h : parent < id then
      match g.node? parent with
      | none => []
      | some node => node :: outwards parent node.parent
    else []
termination_by id

def enclosing (node : TypeNode) : List TypeNode := g.outwards node.id node.parent

end Graph

end WireShadow
