import WireShadow.Settings
import WireShadow.Toml.Decode

namespace WireShadow.Settings

open Toml Decode

def styles : List (String × NamespaceStyle) := [("file_scoped", .fileScoped), ("block", .block)]

def generator (default : Settings) (value : Value) : Except Problem Settings := do
  let (shadowPrefix, presencePrefix, outputPrefix, outputExtension, namespaceStyle, parallel,
    workerThreads, _) ←
    record "GeneratorSection" (
      .optional "shadow_prefix" text default.shadowPrefix <|
      .optional "presence_prefix" text default.presencePrefix <|
      .optional "output_prefix" text default.outputPrefix <|
      .optional "output_extension" text default.outputExtension <|
      .optional "namespace_style" (choice styles) default.namespaceStyle <|
      .optional "parallel" boolean default.parallel <|
      .optional "worker_threads" (fun value => (size value).map some) default.workerThreads .nil) value
  return { default with
    shadowPrefix, presencePrefix, outputPrefix, outputExtension, namespaceStyle, parallel, workerThreads }

def vocabularyOf (value : Value) : Except Problem Vocabulary := do
  let default : Vocabulary := {}
  let (contract, member, ignore, inclusion, options, optionsProperty, _) ←
    record "AttributeVocabulary" (
      .optional "contract" text default.contract <|
      .optional "member" text default.member <|
      .optional "ignore" text default.ignore <|
      .optional "include" text default.inclusion <|
      .optional "options" text default.options <|
      .optional "options_property" text default.optionsProperty .nil) value
  return { contract, member, ignore, inclusion, options, optionsProperty }

def ofEntries (entries : Entries) : Except Problem Settings := do
  let (settings, vocabulary, _) ← Decode.ofEntries (
    .optional "generator" (generator {}) {} <| .optional "attributes" vocabularyOf {} .nil) entries
  return { settings with vocabulary }

/-- Reads the text of a settings file. Without text the defaults hold. -/
def ofToml (s : String) : Except Failure Settings :=
  if Text.allBlank s then .ok {}
  else
    match Document.read s with
    | none => .error (.configuration (.unfit .malformed))
    | some entries => (ofEntries entries).mapError fun problem => .configuration (.unfit problem)

end WireShadow.Settings
