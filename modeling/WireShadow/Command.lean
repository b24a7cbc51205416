import WireShadow.Log.Level

namespace WireShadow

inductive ListingFormat
  | text | json
deriving DecidableEq, Repr, Inhabited

/-- What the program does. Without a settings file of its own, a command that can do without one uses
that of the working directory if it is there. -/
inductive Command
  | generate (input output : String) (settings : Option String) (dryRun : Bool)
  | analyze (input : String) (settings : Option String) (format : ListingFormat)
  | check (settings : Option String)
deriving DecidableEq, Repr

structure Invocation where
  command : Command
  level : Log.Level := .warn
deriving DecidableEq, Repr

def defaultSettingsPath : String := "protoshadow.toml"

end WireShadow
