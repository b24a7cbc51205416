import WireShadow.TypeName

namespace WireShadow

/-- The names of the marker attributes, and of the argument that holds the alternate member
attribute of a type. -/
structure Vocabulary where
  contract : String := "ProtoBuf.ProtoContractAttribute"
  member : String := "ProtoBuf.ProtoMemberAttribute"
  ignore : String := "ProtoBuf.ProtoIgnoreAttribute"
  inclusion : String := "ProtoBuf.ProtoIncludeAttribute"
  options : String := "ProtobufSourceGenerator.GeneratorOptionsAttribute"
  optionsProperty : String := "PropertyAttributeType"
deriving DecidableEq, Repr, Inhabited

namespace Vocabulary

variable (v : Vocabulary)

def isContract (name : String) : Bool := TypeName.sameAttribute name v.contract

def isMember (name : String) : Bool := TypeName.sameAttribute name v.member

def isIgnore (name : String) : Bool := TypeName.sameAttribute name v.ignore

def isInclusion (name : String) : Bool := TypeName.sameAttribute name v.inclusion

def isOptions (name : String) : Bool := TypeName.sameAttribute name v.options

def isManual (name : String) : Bool := v.isMember name || v.isIgnore name

/-- The member attribute as generated code writes it. -/
def memberText : String := TypeName.rooted (TypeName.stripEnding (TypeName.normalize v.member))

def entries : List (String × String) :=
  [("contract", v.contract), ("member", v.member), ("ignore", v.ignore), ("include", v.inclusion),
    ("options", v.options), ("options_property", v.optionsProperty)]

end Vocabulary

end WireShadow
