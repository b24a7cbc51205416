import WireShadow.Declaration
import WireShadow.TypeName

namespace WireShadow.TypeRef

def qualifiedName (t : TypeRef) : String := TypeName.normalize t.name

def isGeneric (t : TypeRef) : Bool := t.kind != .array && !t.arguments.isEmpty

def withArity (name : String) (count : Nat) : String :=
  if count = 0 then name else name ++ "`" ++ toString count

def openDefinition (t : TypeRef) : String :=
  if t.isGeneric then withArity t.qualifiedName t.arguments.length else t.qualifiedName

end WireShadow.TypeRef
