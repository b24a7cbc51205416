import WireShadow.Declaration
import WireShadow.Json.Decode

namespace WireShadow.Declaration

open Data Json Decode

def many {α : Type} (read : Decoder α) : Decoder (List α)
  | 0 => list none
  | level + 1 => list (some (read level))

def struct {τ : Type} (name : String) (fields : Nat → Fields Tree Problem τ) : Decoder τ
  | 0 => record name none
  | level + 1 => record name (some (fields level))

def texts : Decoder (List String) := many fun _ => text

def location : Decoder Location := fun level tree => do
  let (file, line, column, _) ← struct "Location" (fun _ =>
    .optional "file" text "" <| .optional "line" uint32 0 <| .optional "column" uint32 0 .nil) level tree
  return { file, line, column }

def attributeValue : Decoder AttributeValue :=
  choice [("int", .holding fun tree => (int64 tree).map .int),
    ("string", .holding fun tree => (text tree).map .string),
    ("type", .holding fun tree => (text tree).map .type),
    ("bool", .holding fun tree => (boolean tree).map .bool),
    ("null", .plain .null)]

def attributeData : Decoder Attribute := fun level tree => do
  let (name, arguments, named, _) ← struct "AttributeData" (fun level =>
    .required "name" text <| .optional "arguments" (many attributeValue level) [] <|
    .optional "named" (map attributeValue level) [] .nil) level tree
  return { name, arguments, named := .ofList named }

def typeRefKind : Decoder TypeRefKind :=
  choice [("primitive", .plain .primitive), ("enum", .plain .enum), ("class", .plain .class),
    ("struct", .plain .struct), ("interface", .plain .interface),
    ("type_parameter", .plain .typeParameter), ("array", .plain .array)]

def typeRefFields (arguments : Tree → Except Problem (List TypeRef)) (level : Nat) :=
  Fields.required "name" text <| .optional "kind" (typeRefKind level) .class <|
  .optional "arguments" arguments [] <| .optional "nullable" boolean false <|
  .optional "interfaces" (texts level) [] .nil

def typeRef : Decoder TypeRef
  | 0, tree => (record "TypeRef" (τ := TypeRef) none) tree
  | level + 1, tree => do
    let arguments := match level with
      | 0 => list none
      | level + 1 => list (some (typeRef level))
    let (name, kind, arguments, nullable, interfaces, _) ←
      record "TypeRef" (some (typeRefFields arguments level)) tree
    return { name, kind, arguments, nullable, interfaces }

def accessorBody : Decoder AccessorBody :=
  choice [("auto", .plain .auto), ("block", .plain .block), ("expression", .plain .expression)]

def accessor : Decoder Accessor := fun level tree => do
  let (body, isInitOnly, isReadOnly, _) ← struct "Accessor" (fun level =>
    .optional "body" (accessorBody level) .auto <| .optional "is_init_only" boolean false <|
    .optional "is_read_only" boolean false .nil) level tree
  return { body, isInitOnly, isReadOnly }

def property : Decoder Property := fun level tree => do
  let (name, type, getter, setter, isStatic, attributes, location, _) ← struct "PropertyDecl" (fun level =>
    .required "name" text <| .required "type" (typeRef level) <|
    .optional "getter" (nullable (accessor level)) none <|
    .optional "setter" (nullable (accessor level)) none <|
    .optional "is_static" boolean false <| .optional "attributes" (many attributeData level) [] <|
    .optional "location" (location level) {} .nil) level tree
  return { name, type, getter, setter, isStatic, attributes, location }

def typeKind : Decoder TypeKind :=
  choice [("class", .plain .class), ("struct", .plain .struct), ("interface", .plain .interface),
    ("enum", .plain .enum)]

def typeFields (nested : Tree → Except Problem (List DeclTree)) (level : Nat) :=
  Fields.required "name" text <| .optional "namespace" text "" <|
  .optional "kind" (typeKind level) .class <| .optional "is_record" boolean false <|
  .optional "is_partial" boolean false <| .optional "is_static" boolean false <|
  .optional "type_parameters" (texts level) [] <| .optional "base_type" (nullable text) none <|
  .optional "attributes" (many attributeData level) [] <| .optional "properties" (many property level) [] <|
  .optional "nested_types" nested [] <| .optional "location" (location level) {} .nil

def tree : Decoder DeclTree
  | 0, t => (record "TypeDecl" (τ := DeclTree) none) t
  | level + 1, t => do
    let nested := match level with
      | 0 => list none
      | level + 1 => list (some (tree level))
    let (name, namespaceName, kind, isRecord, isPartial, isStatic, typeParameters, baseType, attributes,
      properties, nested, location, _) ← record "TypeDecl" (some (typeFields nested level)) t
    return .node { name, namespaceName, kind, isRecord, isPartial, isStatic, typeParameters, baseType,
                   attributes, properties, location } nested

def types : Decoder (List DeclTree) := fun level t => do
  let (types, _) ← struct "DeclarationDocument" (fun level =>
    .optional "types" (many tree level) [] .nil) level t
  return types

end WireShadow.Declaration
