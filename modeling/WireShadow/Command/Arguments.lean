import WireShadow.Command

namespace WireShadow.Arguments

inductive Misuse
  | noCommand
  | unexpected (word : String)
  | repeated (option : String)
  | noValue (option : String)
  | badValue (option value : String)
  | noSuchValue (option value : String)
  | missing (option : String)
deriving DecidableEq, Repr

def Misuse.message : Misuse → String
  | noCommand => "a command is required"
  | unexpected word => "unexpected argument '" ++ word ++ "'"
  | repeated option => "--" ++ option ++ " cannot be used more than once"
  | noValue option => "--" ++ option ++ " needs a value"
  | badValue option value => "invalid value '" ++ value ++ "' for --" ++ option
  | noSuchValue option value => "unexpected value '" ++ value ++ "' for --" ++ option
  | missing option => "--" ++ option ++ " is required"

inductive Ending
  | help
  | version
  | misuse (reason : Misuse)
deriving DecidableEq, Repr

structure Draft where
  level : Log.Level := .warn
  input : Option String := none
  output : Option String := none
  settings : Option String := none
  format : ListingFormat := .text
  dryRun : Bool := false

/-- What an option does: it takes a value, unless the value says nothing to it, or it stands for
itself, or it ends the reading. -/
inductive Effect
  | value (set : String → Draft → Option Draft)
  | mark (set : Draft → Draft)
  | ending (ending : Ending)

structure Switch where
  name : String
  letter : Option Char
  effect : Effect

def formatOfName? : String → Option ListingFormat
  | "text" => some .text
  | "json" => some .json
  | _ => none

def levelSwitch : Switch :=
  ⟨"log-level", none, .value fun s d => (Log.Level.ofName? s).map fun level => { d with level }⟩

def helpSwitch : Switch := ⟨"help", some 'h', .ending .help⟩

def versionSwitch : Switch := ⟨"version", some 'V', .ending .version⟩

def inputSwitch : Switch := ⟨"input", some 'i', .value fun s d => some { d with input := some s }⟩

def outputSwitch : Switch := ⟨"output", some 'o', .value fun s d => some { d with output := some s }⟩

def settingsSwitch : Switch := ⟨"config", some 'c', .value fun s d => some { d with settings := some s }⟩

def formatSwitch : Switch :=
  ⟨"format", some 'f', .value fun s d => (formatOfName? s).map fun format => { d with format }⟩

def dryRunSwitch : Switch := ⟨"dry-run", none, .mark fun d => { d with dryRun := true }⟩

/-- Options that have been read, with the names of those that may not come again. -/
structure Progress where
  draft : Draft := {}
  seen : List String := []

namespace Progress

def refuse {α : Type} (reason : Misuse) : Except Ending α := .error (.misuse reason)

def take (p : Progress) (switch : Switch) (set : Draft → Option Draft) (value : String) :
    Except Ending Progress :=
  if switch.name ∈ p.seen then refuse (.repeated switch.name)
  else
    match set p.draft with
    | none => refuse (.badValue switch.name value)
    | some draft => .ok ⟨draft, switch.name :: p.seen⟩

end Progress

open Progress

/-- An option as a word gives it, with the value in the same word if there is one. -/
structure Mention where
  switch : Switch
  value : Option String

def longMention (switches : List Switch) (cs : List Char) : Option Mention :=
  let name := cs.takeWhile (· != '=')
  let value := match cs.drop name.length with
    | [] => none
    | _ :: value => some (String.ofList value)
  (switches.find? (·.name.toList == name)).map (⟨·, value⟩)

def letterMention (switches : List Switch) : List Char → Option Mention
  | [] => none
  | c :: cs =>
    let value := match cs with
      | [] => none
      | '=' :: value => some (String.ofList value)
      | value => some (String.ofList value)
    (switches.find? (·.letter == some c)).map (⟨·, value⟩)

inductive Word
  | noMoreOptions
  | option (mention : Option Mention) (isLong : Bool)
  | plain

def wordOf (switches : List Switch) (word : String) : Word :=
  match word.toList with
  | ['-', '-'] => .noMoreOptions
  | '-' :: '-' :: cs => .option (longMention switches cs) true
  | '-' :: c :: cs => .option (letterMention switches (c :: cs)) false
  | _ => .plain

def canBeValue (word : String) : Bool := word.toList.head? != some '-' || word == "-"

/-- Reads options from left to right, up to the name of a command if there are commands. Gives that
name with the words behind it. -/
def readOptions (switches : List Switch) (commands : List String) (p : Progress) :
    List String → Except Ending (Progress × List String)
  | [] => .ok (p, [])
  | word :: words =>
    match wordOf switches word with
    | .noMoreOptions =>
      match words with
      | [] => .ok (p, [])
      | word :: _ => refuse (.unexpected word)
    | .plain => if word ∈ commands then .ok (p, word :: words) else refuse (.unexpected word)
    | .option none _ => refuse (.unexpected word)
    | .option (some mention) isLong =>
      match mention.switch.effect, mention.value with
      | .value set, some value => do
        let p ← p.take mention.switch (set value) value
        readOptions switches commands p words
      | .value set, none =>
        match words with
        | [] => refuse (.noValue mention.switch.name)
        | value :: words =>
          if canBeValue value then do
            let p ← p.take mention.switch (set value) value
            readOptions switches commands p words
          else refuse (.noValue mention.switch.name)
      | .ending ending, value =>
        if isLong && value.isSome then refuse (.noSuchValue mention.switch.name (value.getD ""))
        else .error ending
      | .mark _, some value => refuse (.noSuchValue mention.switch.name value)
      | .mark set, none => do
        let p ← p.take mention.switch (fun d => some (set d)) ""
        readOptions switches commands p words

def need (option : String) (given : Option String) : Except Ending String :=
  match given with
  | some value => .ok value
  | none => refuse (.missing option)

def commands : List (String × List Switch × (Draft → Except Ending Command)) :=
  [("generate", [inputSwitch, outputSwitch, settingsSwitch, dryRunSwitch], fun d => do
      return .generate (← need "input" d.input) (← need "output" d.output) d.settings d.dryRun),
    ("analyze", [inputSwitch, settingsSwitch, formatSwitch], fun d => do
      return .analyze (← need "input" d.input) d.settings d.format),
    ("check", [settingsSwitch], fun d => return .check d.settings)]

def readHelp : List String → Ending
  | [] => .help
  | [word] => if word == "help" || (commands.lookup word).isSome then .help else .misuse (.unexpected word)
  | _ :: word :: _ => .misuse (.unexpected word)

def read (words : List String) : Except Ending Invocation := do
  let names := "help" :: commands.map (·.1)
  let (p, rest) ← readOptions [levelSwitch, helpSwitch, versionSwitch] names {} words
  match rest with
  | [] => refuse .noCommand
  | name :: words =>
    match commands.lookup name with
    | none => .error (readHelp words)
    | some (switches, build) =>
      let (p, _) ← readOptions ([levelSwitch, helpSwitch] ++ switches) [] { draft := p.draft } words
      return { command := ← build p.draft, level := p.draft.level }

end WireShadow.Arguments
