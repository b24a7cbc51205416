import WireShadow.Command.Arguments
import WireShadow.Command.Work

namespace WireShadow

namespace Arguments

def usage : String :=
  "Usage: protoshadow [--log-level LEVEL] COMMAND\n\n" ++
  "Commands:\n" ++
  "  generate --input FILE --output DIR [--config FILE] [--dry-run]\n" ++
  "  analyze  --input FILE [--config FILE] [--format text|json]\n" ++
  "  check    [--config FILE]\n"

def version : String := "protoshadow 0.3.0\n"

def Ending.outcome : Ending → Outcome
  | help => ⟨0, usage, "", none⟩
  | version => ⟨0, Arguments.version, "", none⟩
  | misuse reason => ⟨2, "", "error: " ++ reason.message ++ "\n\n" ++ usage, none⟩

def run {m : Type → Type} [Monad m] [Disk m] (words : List String) : m Outcome :=
  match read words with
  | .error ending => pure ending.outcome
  | .ok invocation => invocation.command.run

end Arguments

end WireShadow
