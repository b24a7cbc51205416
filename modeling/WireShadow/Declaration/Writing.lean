import WireShadow.Declaration
import WireShadow.Json.Value

namespace WireShadow

open Json

namespace Json.Value

def texts (ss : List String) : Value := array (ss.map string)

def orNull {α : Type} (write : α → Value) : Option α → Value
  | none => null
  | some a => write a

end Json.Value

def Location.toJson (l : Location) : Value :=
  .object [("file", .string l.file), ("line", .integer l.line.toNat), ("column", .integer l.column.toNat)]

def AttributeValue.toJson : AttributeValue → Value
  | int n => .object [("int", .integer n.toInt)]
  | string s => .object [("string", .string s)]
  | type name => .object [("type", .string name)]
  | bool b => .object [("bool", .bool b)]
  | null => .string "null"

def Attribute.toJson (a : Attribute) : Value :=
  .object [("name", .string a.name), ("arguments", .array (a.arguments.map (·.toJson))),
    ("named", .object (a.named.entries.map fun e => (e.1, e.2.toJson)))]

def TypeRefKind.key : TypeRefKind → String
  | primitive => "primitive"
  | enum => "enum"
  | «class» => "class"
  | struct => "struct"
  | interface => "interface"
  | typeParameter => "type_parameter"
  | array => "array"

namespace TypeRef

mutual

def toJson : TypeRef → Value
  | ⟨name, kind, arguments, nullable, interfaces⟩ =>
    .object [("name", .string name), ("kind", .string kind.key), ("arguments", .array (allToJson arguments)),
      ("nullable", .bool nullable), ("interfaces", .texts interfaces)]

def allToJson : List TypeRef → List Value
  | [] => []
  | type :: types => type.toJson :: allToJson types

end

end TypeRef

def AccessorBody.key : AccessorBody → String
  | auto => "auto"
  | block => "block"
  | expression => "expression"

def Accessor.toJson (a : Accessor) : Value :=
  .object [("body", .string a.body.key), ("is_init_only", .bool a.isInitOnly),
    ("is_read_only", .bool a.isReadOnly)]

def Property.toJson (p : Property) : Value :=
  .object [("name", .string p.name), ("type", p.type.toJson), ("getter", .orNull Accessor.toJson p.getter),
    ("setter", .orNull Accessor.toJson p.setter), ("is_static", .bool p.isStatic),
    ("attributes", .array (p.attributes.map (·.toJson))), ("location", p.location.toJson)]

def TypeKind.key : TypeKind → String
  | «class» => "class"
  | struct => "struct"
  | interface => "interface"
  | enum => "enum"

def TypeDecl.toJson (d : TypeDecl) (nested : List Value) : Value :=
  .object [("name", .string d.name), ("namespace", .string d.namespaceName), ("kind", .string d.kind.key),
    ("is_record", .bool d.isRecord), ("is_partial", .bool d.isPartial), ("is_static", .bool d.isStatic),
    ("type_parameters", .texts d.typeParameters), ("base_type", .orNull .string d.baseType),
    ("attributes", .array (d.attributes.map (·.toJson))), ("properties", .array (d.properties.map (·.toJson))),
    ("nested_types", .array nested), ("location", d.location.toJson)]

namespace DeclTree

mutual

def toJson : DeclTree → Value
  | node decl nested => decl.toJson (allToJson nested)

def allToJson : List DeclTree → List Value
  | [] => []
  | tree :: trees => tree.toJson :: allToJson trees

end

def documentJson (types : List DeclTree) : Value := .object [("types", .array (allToJson types))]

end DeclTree

end WireShadow
