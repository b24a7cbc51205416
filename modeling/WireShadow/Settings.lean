import WireShadow.Failure
import WireShadow.Text.Letter
import WireShadow.Vocabulary

namespace WireShadow

inductive NamespaceStyle
  | fileScoped | block
deriving DecidableEq, Repr, Inhabited

structure Settings where
  shadowPrefix : String := "Proto"
  presencePrefix : String := "ProtoIsEmpty"
  outputPrefix : String := "Proto"
  outputExtension : String := ".g.cs"
  namespaceStyle : NamespaceStyle := .fileScoped
  parallel : Bool := true
  workerThreads : Option UInt64 := none
  vocabulary : Vocabulary := {}
deriving DecidableEq, Repr, Inhabited

namespace Settings

/-- The checks of settings in their order, each with what it finds wrong. -/
def checks (s : Settings) : List (Bool × SettingsDefect) :=
  [(Text.isIdentifier s.shadowPrefix, .notIdentifier "shadow_prefix" s.shadowPrefix),
    (Text.isIdentifier s.presencePrefix, .notIdentifier "presence_prefix" s.presencePrefix),
    (s.shadowPrefix != s.presencePrefix, .equalPrefixes),
    (s.outputExtension.toList.head? == some '.' && 2 ≤ s.outputExtension.utf8ByteSize,
      .badExtension s.outputExtension),
    (s.outputPrefix.toList.all fun c => c != '/' && c != '\\', .separatorInOutput),
    (s.workerThreads != some 0, .noWorkers)] ++
  s.vocabulary.entries.map fun (key, name) => (!Text.allBlank name, .emptyName key)

def validate (s : Settings) : Except Failure Unit :=
  match s.checks.find? (!·.1) with
  | none => .ok ()
  | some (_, defect) => .error (.configuration defect)

def styleText : NamespaceStyle → String
  | .fileScoped => "file-scoped"
  | .block => "block"

def summary (s : Settings) : String :=
  let workers := s.workerThreads.elim "default" fun n => toString n.toNat
  String.intercalate "\n"
    ["✓ Shadow: " ++ s.shadowPrefix ++ "<Name>, presence: " ++ s.presencePrefix ++ "<Name>",
      "✓ Output: " ++ s.outputPrefix ++ "<Type>" ++ s.outputExtension ++ " (" ++
        styleText s.namespaceStyle ++ " namespace)",
      "✓ Contract marker: " ++ s.vocabulary.contract,
      "✓ Member marker: " ++ s.vocabulary.member,
      "✓ Parallel: " ++ toString s.parallel ++ " (workers: " ++ workers ++ ")"]

end Settings

end WireShadow
