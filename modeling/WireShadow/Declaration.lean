namespace WireShadow

structure Location where
  file : String := ""
  line : UInt32 := 0
  column : UInt32 := 0
deriving DecidableEq, Repr, Inhabited

namespace Location

def text (l : Location) : String :=
  l.file ++ "(" ++ toString l.line.toNat ++ "," ++ toString l.column.toNat ++ ")"

def compare (x y : Location) : Ordering :=
  (compareOfLessAndEq x.file y.file).then
    ((compareOfLessAndEq x.line.toNat y.line.toNat).then
      (compareOfLessAndEq x.column.toNat y.column.toNat))

end Location

/-- A constant argument of an attribute; `type` is the name in a `typeof`. -/
inductive AttributeValue
  | int (n : Int64)
  | string (s : String)
  | type (name : String)
  | bool (b : Bool)
  | null
deriving DecidableEq, Repr, Inhabited

/-- Named arguments, each name once and in the order of the names. -/
structure NamedArguments where
  entries : List (String × AttributeValue) := []
  ascending : entries.Pairwise (·.1 < ·.1) := by exact .nil

namespace NamedArguments

def place (name : String) (value : AttributeValue) :
    List (String × AttributeValue) → List (String × AttributeValue)
  | [] => [(name, value)]
  | (key, old) :: entries =>
    if name < key then (name, value) :: (key, old) :: entries
    else if name = key then (name, value) :: entries
    else (key, old) :: place name value entries

theorem mem_place {name : String} {value : AttributeValue} {entries : List (String × AttributeValue)}
    {e : String × AttributeValue} (h : e ∈ place name value entries) :
    e = (name, value) ∨ e ∈ entries := by
  fun_induction place name value entries <;> grind

theorem place_ascending (name : String) (value : AttributeValue)
    (entries : List (String × AttributeValue)) (h : entries.Pairwise (·.1 < ·.1)) :
    (place name value entries).Pairwise (·.1 < ·.1) := by
  fun_induction place name value entries with
  | case1 => simp
  | case2 key old entries hlt =>
    refine List.pairwise_cons.2 ⟨fun e he => ?_, h⟩
    rcases List.mem_cons.1 he with rfl | he
    · exact hlt
    · exact String.lt_trans hlt ((List.pairwise_cons.1 h).1 e he)
  | case3 old entries _ =>
    obtain ⟨hfirst, hrest⟩ := List.pairwise_cons.1 h
    exact List.pairwise_cons.2 ⟨hfirst, hrest⟩
  | case4 key old entries hlt hne ih =>
    refine List.pairwise_cons.2 ⟨fun e he => ?_, ih (List.pairwise_cons.1 h).2⟩
    rcases mem_place he with rfl | he
    · exact Std.lt_of_le_of_ne (String.not_lt.1 hlt) (Ne.symm hne)
    · exact (List.pairwise_cons.1 h).1 e he

def insert (args : NamedArguments) (name : String) (value : AttributeValue) : NamedArguments :=
  ⟨place name value args.entries, place_ascending name value args.entries args.ascending⟩

def ofList (entries : List (String × AttributeValue)) : NamedArguments :=
  entries.foldl (fun args e => args.insert e.1 e.2) {}

def get? (args : NamedArguments) (name : String) : Option AttributeValue := args.entries.lookup name

instance : Inhabited NamedArguments := ⟨{}⟩

end NamedArguments

structure Attribute where
  name : String
  arguments : List AttributeValue := []
  named : NamedArguments := default
deriving Inhabited

def Attribute.firstInt (a : Attribute) : Option Int64 :=
  a.arguments.findSome? fun
    | .int n => some n
    | _ => none

/-- What a type reference refers to. The element type of an array is its single argument. -/
inductive TypeRefKind
  | primitive | enum | «class» | struct | interface | typeParameter | array
deriving DecidableEq, Repr, Inhabited

/-- A use of a type: its qualified name without generic arity, its type arguments, and the open
generic interfaces that its definition implements. -/
structure TypeRef where
  name : String
  kind : TypeRefKind := .class
  arguments : List TypeRef := []
  nullable : Bool := false
  interfaces : List String := []
deriving Inhabited

inductive AccessorBody
  | auto | block | expression
deriving DecidableEq, Repr, Inhabited

structure Accessor where
  body : AccessorBody := .auto
  isInitOnly : Bool := false
  isReadOnly : Bool := false
deriving DecidableEq, Repr, Inhabited

structure Property where
  name : String
  type : TypeRef
  getter : Option Accessor := none
  setter : Option Accessor := none
  isStatic : Bool := false
  attributes : List Attribute := []
  location : Location := {}
deriving Inhabited

namespace Property

def accessors (p : Property) : List Accessor := p.getter.toList ++ p.setter.toList

def isAuto (p : Property) : Bool := !p.accessors.isEmpty && p.accessors.all (·.body == .auto)

def isInitOnly (p : Property) : Bool := p.setter.any (·.isInitOnly)

end Property

inductive TypeKind
  | «class» | struct | interface | enum
deriving DecidableEq, Repr, Inhabited

/-- A declared type without the types that are declared inside it. -/
structure TypeDecl where
  name : String
  namespaceName : String := ""
  kind : TypeKind := .class
  isRecord : Bool := false
  isPartial : Bool := false
  isStatic : Bool := false
  typeParameters : List String := []
  baseType : Option String := none
  attributes : List Attribute := []
  properties : List Property := []
  location : Location := {}
deriving Inhabited

def TypeDecl.isReferenceType (d : TypeDecl) : Bool := d.kind == .class || d.kind == .interface

inductive DeclTree
  | node (decl : TypeDecl) (nested : List DeclTree)
deriving Inhabited

namespace DeclTree

def decl : DeclTree → TypeDecl
  | node decl _ => decl

def nested : DeclTree → List DeclTree
  | node _ nested => nested

mutual

def size : DeclTree → Nat
  | node _ nested => 1 + sizeAll nested

def sizeAll : List DeclTree → Nat
  | [] => 0
  | tree :: trees => tree.size + sizeAll trees

end

end DeclTree

end WireShadow
