import WireShadow.CSharp.Writer
import WireShadow.Member

namespace WireShadow

structure GeneratedUnit where
  outputKey : String
  text : String
deriving DecidableEq, Repr, Inhabited

namespace TypeHead

def header (h : TypeHead) : String :=
  "partial " ++ h.kind.keyword ++ " " ++ h.name ++ CSharp.angled h.typeParameters

end TypeHead

namespace TypeDescriptor

open CSharp

variable (d : TypeDescriptor) (settings : Settings)

def chain : List TypeHead := (d.head :: d.enclosing).reverse

def outputKey : String :=
  let names := d.chain.map (·.metadataName)
  let segments := if d.head.namespaceName.isEmpty then names else d.head.namespaceName :: names
  settings.outputPrefix ++ String.intercalate "." segments ++ settings.outputExtension

def hasBlock : Bool := !d.head.namespaceName.isEmpty && settings.namespaceStyle == .block

def preamble (w : Writer) : Writer := ((w.line "// <auto-generated/>").line "#nullable enable").blank

def openNamespace (w : Writer) : Writer :=
  if d.hasBlock settings then w.openBlock ("namespace " ++ d.head.namespaceName)
  else if d.head.namespaceName.isEmpty then w
  else (w.line ("namespace " ++ d.head.namespaceName ++ ";")).blank

def writeMember (w : Writer) (m : MemberText) : Writer := (w.line m.attributeLine).line m.declaration

def writeMembers (w : Writer) : List MemberText → Writer
  | [] => w
  | m :: ms => ms.foldl (fun w m => writeMember w.blank m) (writeMember w m)

def write (members : List MemberText) : Writer :=
  let w := d.openNamespace settings (preamble {})
  let w := d.chain.foldl (fun w h => w.openBlock h.header) w
  let w := writeMembers w members
  let w := d.chain.foldl (fun w _ => w.closeBlock) w
  if d.hasBlock settings then w.closeBlock else w

def emit : Except Failure GeneratedUnit := do
  let members ← d.members.mapM fun m => m.emit settings
  return { outputKey := d.outputKey settings, text := (d.write settings members).text }

end TypeDescriptor

end WireShadow
