import WireShadow.Declaration.Reference
import WireShadow.Graph
import WireShadow.Marker

namespace WireShadow

/-- The forms of generated members: a plain one forwards to the property, the helpers of a collection
tell whether it is empty. -/
inductive Shape
  | plain
  | concreteCollection
  | abstractSequence
  | abstractMap
  | lazySequence
deriving DecidableEq, Repr, Inhabited

namespace Shape

def isHelper : Shape → Bool
  | plain => false
  | _ => true

def elementArity : Shape → Nat
  | plain | concreteCollection => 0
  | abstractSequence | lazySequence => 1
  | abstractMap => 2

def name : Shape → String
  | plain => "Plain"
  | concreteCollection => "ConcreteCollectionHelper"
  | abstractSequence => "AbstractSequenceHelper"
  | abstractMap => "AbstractMapHelper"
  | lazySequence => "LazySequenceHelper"

def members (shape : Shape) : List Shape := if shape.isHelper then [plain, shape] else [plain]

end Shape

/-- The shape of a type, or the name of a type that should have a contract. -/
inductive Classification
  | shape (shape : Shape)
  | missingContract (typeName : String)
deriving DecidableEq, Repr, Inhabited

namespace Collections

def enumerable : String := "System.Collections.Generic.IEnumerable`1"

def sequenceInterfaces : List String :=
  ["System.Collections.Generic.IList`1", "System.Collections.Generic.ICollection`1",
    "System.Collections.Generic.IReadOnlyList`1", "System.Collections.Generic.IReadOnlyCollection`1"]

def mapInterfaces : List String :=
  ["System.Collections.Generic.IDictionary`2", "System.Collections.Generic.IReadOnlyDictionary`2"]

def isCollection (name : String) : Bool := name ∈ sequenceInterfaces || name ∈ mapInterfaces

def known : List (String × String) :=
  [("System.Collections.Generic.List`1", "System.Collections.Generic.IList`1"),
    ("System.Collections.Generic.HashSet`1", "System.Collections.Generic.ICollection`1"),
    ("System.Collections.Generic.SortedSet`1", "System.Collections.Generic.ICollection`1"),
    ("System.Collections.Generic.LinkedList`1", "System.Collections.Generic.ICollection`1"),
    ("System.Collections.Generic.Queue`1", "System.Collections.Generic.IReadOnlyCollection`1"),
    ("System.Collections.Generic.Stack`1", "System.Collections.Generic.IReadOnlyCollection`1"),
    ("System.Collections.Generic.Dictionary`2", "System.Collections.Generic.IDictionary`2"),
    ("System.Collections.Generic.SortedDictionary`2", "System.Collections.Generic.IDictionary`2"),
    ("System.Collections.Generic.SortedList`2", "System.Collections.Generic.IDictionary`2"),
    ("System.Collections.ObjectModel.Collection`1", "System.Collections.Generic.IList`1"),
    ("System.Collections.ObjectModel.ObservableCollection`1", "System.Collections.Generic.IList`1"),
    ("System.Collections.Concurrent.ConcurrentDictionary`2", "System.Collections.Generic.IDictionary`2"),
    ("System.Collections.Concurrent.ConcurrentBag`1", "System.Collections.Generic.IReadOnlyCollection`1")]

/-- The interfaces that a generic type implements, as far as they are known or the reference lists them. Of a
listed name the aliases are left out, but not the blanks. -/
def contracts (t : TypeRef) : List String :=
  (known.filter (·.1 == t.openDefinition)).map (·.2) ++
    t.interfaces.map fun name => String.ofList (TypeName.dropAliases name.toList)

end Collections

namespace TypeRef

open Collections

/-- The shape of a generic type that is a collection. An interface is one only by its own name. -/
def collectionShape (t : TypeRef) : Option Shape :=
  if t.openDefinition == enumerable then some .lazySequence
  else if t.kind = .interface then
    if t.openDefinition ∈ sequenceInterfaces then some .abstractSequence
    else if t.openDefinition ∈ mapInterfaces then some .abstractMap
    else none
  else if (contracts t).any isCollection then some .concreteCollection
  else if enumerable ∈ contracts t then some .lazySequence
  else none

def isSystemName (name : String) : Bool := name == "System" || "System.".toList.isPrefixOf name.toList

/-- Whether a name leads to a type that needs no contract of its own: one of the system's, a declared
enum or a type that is generated for. -/
def isCovered (g : Graph) (v : Vocabulary) (name : String) : Bool :=
  isSystemName name || (g.lookup name).any fun node => node.decl.kind == .enum || node.decl.isRoot v

def classifyNamed (g : Graph) (v : Vocabulary) (t : TypeRef) : Classification :=
  if t.kind = .interface || isCovered g v t.qualifiedName then .shape .plain
  else .missingContract t.qualifiedName

def classify (g : Graph) (v : Vocabulary) (t : TypeRef) : Classification :=
  match t.kind with
  | .primitive | .enum | .typeParameter | .array => .shape .plain
  | .class | .struct | .interface =>
    match if t.isGeneric then t.collectionShape else none with
    | some shape => .shape shape
    | none => t.classifyNamed g v

end TypeRef

end WireShadow
