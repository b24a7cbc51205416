import WireShadow.Disk
import WireShadow.Failure

namespace WireShadow

inductive CommandFault
  | unreadableModel (path : String) (fault : DiskFault)
  | badModel (path : String) (failure : Failure)
  | unloadableSettings (path : String) (failure : Failure)
  | badSettings (path : Option String) (failure : Failure)
  | noOutputDirectory (path : String) (fault : DiskFault)
  | unwritable (path : String) (fault : DiskFault)
  | failedRoots (count : Nat)
deriving Repr

namespace CommandFault

def message : CommandFault → String
  | unreadableModel path _ => "Failed to read declaration model: " ++ Text.quoted path
  | badModel path _ => "Failed to parse declaration model: " ++ Text.quoted path
  | unloadableSettings path _ => "Failed to load configuration: " ++ path
  | badSettings (some path) _ => "Invalid configuration: " ++ path
  | badSettings none _ => "Invalid configuration"
  | noOutputDirectory path _ => "Failed to create output directory: " ++ Text.quoted path
  | unwritable path _ => "Failed to write " ++ Text.quoted path
  | failedRoots count => toString count ++ " root(s) failed to generate"

def cause? : CommandFault → Option String
  | unreadableModel _ fault | noOutputDirectory _ fault | unwritable _ fault => some fault.message
  | badModel _ failure | unloadableSettings _ failure | badSettings _ failure => some failure.message
  | failedRoots _ => none

def isReadingFault : CommandFault → Bool
  | badModel _ (.serialization _) | unloadableSettings _ (.configuration (.unfit _)) => true
  | _ => false

def indent (text : String) : String :=
  String.intercalate "\n" (((text.toList.splitOnP (· == '\n')).map String.ofList).map ("    " ++ ·))

def report (fault : CommandFault) : String :=
  "Error: " ++ fault.message ++ fault.cause?.elim "" fun cause => "\n\nCaused by:\n" ++ indent cause

end CommandFault

end WireShadow
