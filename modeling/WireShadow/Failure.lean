import WireShadow.Json.Problem
import WireShadow.Toml.Problem

namespace WireShadow

inductive GraphDefect
  | blankName
  | duplicateType (qualifiedName : String)
  | partialEnum (name : String)
deriving DecidableEq, Repr

def GraphDefect.message : GraphDefect → String
  | blankName => "type declaration with empty name"
  | duplicateType name => "duplicate type '" ++ name ++ "'"
  | partialEnum name => "enum '" ++ name ++ "' cannot be declared partial"

inductive SettingsDefect
  | unreadable (path reason : String)
  | unfit (problem : Toml.Problem)
  | notIdentifier (key value : String)
  | equalPrefixes
  | badExtension (value : String)
  | separatorInOutput
  | noWorkers
  | emptyName (key : String)
deriving Repr

def SettingsDefect.message : SettingsDefect → String
  | unreadable path reason => "failed to read " ++ Text.quoted path ++ ": " ++ reason
  | unfit problem => problem.message
  | notIdentifier key value => key ++ " must be a C# identifier, got '" ++ value ++ "'"
  | equalPrefixes => "shadow_prefix and presence_prefix must differ"
  | badExtension value => "output_extension must start with '.', got '" ++ value ++ "'"
  | separatorInOutput => "output_prefix cannot contain path separators"
  | noWorkers => "worker_threads must be greater than zero"
  | emptyName key => "attributes." ++ key ++ " cannot be empty"

inductive Failure
  | cancelled
  | unsupportedShape (property shape : String)
  | invalidGraph (defect : GraphDefect)
  | configuration (defect : SettingsDefect)
  | serialization (problem : Json.Problem)
deriving Repr

namespace Failure

def graphText (detail : String) : String := "invalid declaration graph: " ++ detail

def configurationText (detail : String) : String := "configuration error: " ++ detail

def serializationText (detail : String) : String := "serialization error: " ++ detail

def message : Failure → String
  | cancelled => "generation cancelled"
  | unsupportedShape property shape => "unsupported shape " ++ shape ++ " for property '" ++ property ++ "'"
  | invalidGraph defect => graphText defect.message
  | configuration defect => configurationText defect.message
  | serialization problem => serializationText problem.message

def isCancellation : Failure → Bool
  | cancelled => true
  | _ => false

end Failure

end WireShadow
