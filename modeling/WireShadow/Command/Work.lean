import WireShadow.Command
import WireShadow.Command.Fault
import WireShadow.Diagnostic.Analysis
import WireShadow.Generation
import WireShadow.Settings.Reading

namespace WireShadow

structure Printed where
  out : List String := []
  err : List String := []
deriving DecidableEq, Repr, Inhabited

namespace Command

abbrev Work (m : Type → Type) := ExceptT CommandFault (StateT Printed m)

section

variable {m : Type → Type} [Monad m] [Disk m]

def print (text : String) : Work m Unit := modify fun p => { p with out := p.out ++ [text] }

def printError (text : String) : Work m Unit := modify fun p => { p with err := p.err ++ [text] }

def onDisk {α : Type} (use : m α) : Work m α := ExceptT.lift (StateT.lift use)

def orFault {ε α : Type} (fault : ε → CommandFault) (x : Except ε α) : Work m α :=
  match x with
  | .ok a => pure a
  | .error e => throw (fault e)

def loadGraph (path : String) : Work m Graph := do
  let text ← orFault (.unreadableModel path) (← onDisk (Disk.read path))
  orFault (.badModel path) (Graph.ofJson text)

def readSettings (path : String) : Work m Settings := do
  let text ← onDisk (Disk.read path)
  orFault (.unloadableSettings path) <| do
    let text ← text.mapError fun fault => .configuration (.unreadable path fault.message)
    Settings.ofToml text

/-- The settings that hold: those of a file that was named, or of the working directory, or none. -/
def loadSettings (named : Option String) : Work m Settings := do
  let path ← match named with
    | some path => pure (some path)
    | none =>
      let isThere ← onDisk (Disk.isFile defaultSettingsPath)
      pure (if isThere then some defaultSettingsPath else none)
  match path with
  | none => return {}
  | some path =>
    let settings ← readSettings path
    orFault (.badSettings path) settings.validate
    return settings

def writeUnits (directory : String) (units : List GeneratedUnit) : Work m Unit := do
  orFault (.noOutputDirectory directory) (← onDisk (Disk.makeDirectories directory))
  units.forM fun file => do
    let path := Path.join directory file.outputKey
    orFault (.unwritable path) (← onDisk (Disk.write path file.text))

def generateFiles (input output : String) (settings : Option String) (dryRun : Bool) : Work m Bool := do
  let graph ← loadGraph input
  let settings ← loadSettings settings
  let serious := (graph.diagnostics settings).filter (·.severity != .info)
  serious.forM fun diagnostic => printError diagnostic.text
  let report := graph.generate settings .never
  if dryRun then
    report.units.forM fun file => print (Path.join output file.outputKey)
  else
    writeUnits output report.units
    print ("Generated " ++ toString report.units.length ++ " file(s) in " ++ output)
  report.failures.forM fun (root, failure) =>
    printError ("error: " ++ root ++ ": " ++ failure.message)
  if !report.isSuccess then throw (.failedRoots report.failures.length)
  return true

def listDiagnostics (input : String) (settings : Option String) (format : ListingFormat) : Work m Bool := do
  let graph ← loadGraph input
  let settings ← loadSettings settings
  let diagnostics := graph.diagnostics settings
  print <| match format with
    | .text => Diagnostic.listing diagnostics
    | .json => Diagnostic.jsonListing diagnostics
  return !diagnostics.any (·.isError)

def checkSettings (path : String) : Work m Bool := do
  print ("Checking configuration: " ++ path)
  let settings ← readSettings path
  orFault (.badSettings none) settings.validate
  print settings.summary
  print "\nConfiguration is valid!"
  return true

def work : Command → Work m Bool
  | .generate input output settings dryRun => generateFiles input output settings dryRun
  | .analyze input settings format => listDiagnostics input settings format
  | .check settings => checkSettings (settings.getD defaultSettingsPath)

end

end Command

structure Outcome where
  exit : UInt32
  out : String
  err : String
  fault : Option CommandFault := none
deriving Repr

namespace Outcome

def lines (texts : List String) : String := String.join (texts.map (· ++ "\n"))

def ofPrinted (p : Printed) : Except CommandFault Bool → Outcome
  | .ok isClean => ⟨if isClean then 0 else 1, lines p.out, lines p.err, none⟩
  | .error fault => ⟨1, lines p.out, lines (p.err ++ [fault.report]), some fault⟩

end Outcome

def Command.run {m : Type → Type} [Monad m] [Disk m] (command : Command) : m Outcome := do
  let (result, printed) ← (command.work : Work m Bool) |>.run |>.run {}
  return .ofPrinted printed result

end WireShadow
