import WireShadow.Declaration.Reference

namespace WireShadow.CSharp

def keywords : List (String × String) :=
  [("System.Boolean", "bool"), ("System.Byte", "byte"), ("System.SByte", "sbyte"),
    ("System.Int16", "short"), ("System.UInt16", "ushort"), ("System.Int32", "int"),
    ("System.UInt32", "uint"), ("System.Int64", "long"), ("System.UInt64", "ulong"),
    ("System.Single", "float"), ("System.Double", "double"), ("System.Decimal", "decimal"),
    ("System.Char", "char"), ("System.String", "string"), ("System.Object", "object")]

def keyword? (qualifiedName : String) : Option String := keywords.lookup qualifiedName

def commaList (items : List String) : String := String.intercalate ", " items

def angled (items : List String) : String := if items.isEmpty then "" else "<" ++ commaList items ++ ">"

mutual

def typeText : TypeRef → String
  | ⟨name, kind, arguments, nullable, _⟩ =>
    let qualifiedName := TypeName.normalize name
    let bare := match kind with
      | .array =>
        match typeTexts arguments with
        | [] => "global::System.Array"
        | element :: _ => element ++ "[]"
      | .typeParameter => qualifiedName
      | _ => (keyword? qualifiedName).getD (TypeName.rooted qualifiedName ++ angled (typeTexts arguments))
    if nullable then bare ++ "?" else bare

def typeTexts : List TypeRef → List String
  | [] => []
  | type :: types => typeText type :: typeTexts types

end

theorem typeTexts_eq_map (types : List TypeRef) : typeTexts types = types.map typeText := by
  induction types with
  | nil => rfl
  | cons type types ih => rw [typeTexts, ih, List.map_cons]

end WireShadow.CSharp
