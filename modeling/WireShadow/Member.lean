import WireShadow.Descriptor
import WireShadow.Settings

namespace WireShadow

structure MemberText where
  attributeLine : String
  declaration : String
deriving DecidableEq, Repr, Inhabited

namespace Shape

def memberName (shape : Shape) (property : String) (settings : Settings) : String :=
  (if shape.isHelper then settings.presencePrefix else settings.shadowPrefix) ++ property

end Shape

namespace Member

variable (m : Member) (settings : Settings)

def name : String := m.shape.memberName m.property settings

def braced (s : String) : String := "\x7b " ++ s ++ " \x7d"

def setterWord : String := if m.isInitOnly then "init" else "set"

def element (type : Option String) : Except Failure String :=
  match type with
  | some text => .ok text
  | none => .error (.unsupportedShape m.property m.shape.name)

def listType : String := "global::System.Collections.Generic.List"

def dictionaryType : String := "global::System.Collections.Generic.Dictionary"

def enumerableType : String := "global::System.Linq.Enumerable"

/-- A member that tells whether a collection is empty, and makes it so when set. -/
def presence (test empty : String) : String :=
  "private bool " ++ m.name settings ++ " " ++
    braced ("get => " ++ test ++ "; " ++ m.setterWord ++ " " ++
      braced ("if (value) " ++ m.property ++ " = " ++ empty ++ ";"))

def countTest : String := m.property ++ "?.Count == 0"

def anyTest : String := m.property ++ " != null && !" ++ enumerableType ++ ".Any(" ++ m.property ++ ")"

def declaration : Except Failure String :=
  match m.shape with
  | .plain =>
    .ok ("private " ++ m.typeText ++ " " ++ m.name settings ++ " " ++
      braced ("get => " ++ m.property ++ "; " ++ m.setterWord ++ " => " ++ m.property ++ " = value;"))
  | .concreteCollection => .ok (m.presence settings m.countTest "new()")
  | .abstractSequence => do
    let element ← m.element m.element0
    return m.presence settings m.countTest ("new " ++ listType ++ "<" ++ element ++ ">()")
  | .abstractMap => do
    let key ← m.element m.element0
    let value ← m.element m.element1
    return m.presence settings m.countTest ("new " ++ dictionaryType ++ "<" ++ key ++ ", " ++ value ++ ">()")
  | .lazySequence => do
    let element ← m.element m.element0
    return m.presence settings m.anyTest (enumerableType ++ ".Empty<" ++ element ++ ">()")

def attributeLine : String :=
  let marker := (m.customAttribute.map TypeName.rooted).getD settings.vocabulary.memberText
  "[" ++ marker ++ "(" ++ toString m.tag ++ ")]"

def emit : Except Failure MemberText := do
  let declaration ← m.declaration settings
  return { attributeLine := m.attributeLine settings, declaration }

end Member

end WireShadow
