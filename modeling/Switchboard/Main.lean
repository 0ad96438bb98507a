import Switchboard.Client.Script
import Switchboard.Options.CommandLine

/-!
# Command line

Reads the options, checks them and runs a client with them. No web socket is built in here: the
attempt to connect is refused, and the run ends as it does against a server that is not there.
-/

namespace Switchboard.CommandLine

def helpText : String :=
  "Supervise remote terminals grouped by host.\n\n" ++
  "Usage: switchboard [OPTIONS] [URL]\n\n" ++
  "Options:\n" ++
  String.join (Options.Key.all.filterMap fun key =>
    key.argumentName?.map fun name => "  --" ++ name ++ "  [env: " ++ key.variableName ++ "]\n")

def versionText : String := "switchboard 0.3.0\n"

def usageText : Options.Stop → String
  | .badNumber => "error: a number is expected"
  | .badValue => "error: a value is missing or not allowed"
  | .unknownArgument => "error: unexpected argument"
  | .repeated => "error: an option is given twice"
  | .unexpectedValue => "error: a value is given to an option that takes none"
  | .help => helpText
  | .version => versionText

def environment : IO (List (String × String)) := do
  let found ← Options.Key.all.mapM fun key => do
    return (← IO.getEnv key.variableName).map fun value => (key.variableName, value)
  return found.reduceOption

def noSocket : String := "no web socket is built in"

def runClient (settings : Client.Settings) : IO UInt32 := do
  let (client, _) := ({ settings } : Client).happen (.refused noSocket)
  match client.result? with
  | some (.error e) => do
    IO.eprintln ("fatal: " ++ e.message)
    return 1
  | _ => return 0

def run (arguments : List String) : IO UInt32 := do
  match Options.read arguments (← environment) with
  | .error .help => IO.print helpText *> pure 0
  | .error .version => IO.print versionText *> pure 0
  | .error stop => IO.eprintln (usageText stop) *> pure 2
  | .ok options =>
    match options.validate with
    | .error e => IO.eprintln ("error: " ++ e.message) *> pure 2
    | .ok () => runClient options.clientSettings

end Switchboard.CommandLine

def main (arguments : List String) : IO UInt32 := Switchboard.CommandLine.run arguments
