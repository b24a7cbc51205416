import WireShadow.Text.Blank

namespace WireShadow.TypeName

open Text

def rootAlias : List Char := "global::".toList

def dropAlias (cs : List Char) : List Char := (rootAlias.isPrefixOf? cs).getD cs

def dropAliases : List Char → List Char
  | 'g' :: 'l' :: 'o' :: 'b' :: 'a' :: 'l' :: ':' :: ':' :: cs => dropAliases cs
  | cs => cs

/-- The form in which names are compared: no blanks at the ends and one leading alias less. -/
def normalize (name : String) : String := String.ofList (dropAlias (trimChars name.toList))

def rooted (name : String) : String := "global::" ++ name

/-- An attribute class may be named without this ending of its name. -/
def attributeEnding : List Char := "Attribute".toList

def stripEnding (name : String) : String :=
  String.ofList ((attributeEnding.isSuffixOf? name.toList).getD name.toList)

/-- Whether two names mean one attribute class: equal after normalizing, or after leaving out the
ending as well. -/
def sameAttribute (x y : String) : Bool :=
  normalize x == normalize y || stripEnding (normalize x) == stripEnding (normalize y)

end WireShadow.TypeName
