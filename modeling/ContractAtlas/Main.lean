import ContractAtlas.Artifacts
import ContractAtlas.Program

namespace ContractAtlas

def environment : IO Environment := do
  return {
    logJson := ← IO.getEnv "OP_BINDINGS_LOG_JSON"
    noColour := ← IO.getEnv "NO_COLOR"
    colour := ← IO.getEnv "CLICOLOR"
    colourForced := ← IO.getEnv "CLICOLOR_FORCE"
    terminal := ← (← IO.getStdout).isTty }

def usageLine : UsageFault → String
  | .displayHelp | .displayHelpOnMissingSubcommand =>
    "usage: [--log-json] (list | layout NAME [--json] | bytecode NAME [--decoded-info] | check)"
  | .missingSubcommand => "error: a subcommand is missing"
  | .invalidSubcommand => "error: there is no such subcommand"
  | .unknownArgument => "error: unexpected argument"
  | .tooManyValues => "error: a flag takes no value"
  | .argumentConflict => "error: a flag is given twice"
  | .invalidValue => "error: invalid value of a flag"
  | .missingRequiredArgument => "error: the name of a contract is missing"

end ContractAtlas

open ContractAtlas in
def main (args : List String) : IO UInt32 := do
  match Registry.standard with
  | .error fault =>
    IO.eprintln fault.message
    return 101
  | .ok registry =>
    let outcome := Program.run registry (← environment) args
    IO.print outcome.output
    match outcome.ending with
    | .success => pure ()
    | .failure report => IO.eprintln s!"Error: {report}"
    | .usage fault => IO.eprintln (usageLine fault)
    return outcome.ending.exitCode
