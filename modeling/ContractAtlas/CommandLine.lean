/-!
The command line: a subcommand with its name and flag, and one flag that may stand before or behind the
subcommand or come from the environment. Arguments are read from left to right, and the first that does
not fit is the fault; what is missing is found out at the end, the subcommand first.
-/

namespace ContractAtlas

inductive Command where
  | list
  | layout (name : String) (json : Bool)
  | bytecode (name : String) (decodedInfo : Bool)
  | check
  deriving DecidableEq, Repr

structure Invocation where
  logJson : Bool
  command : Command
  deriving DecidableEq, Repr

inductive UsageFault where
  | displayHelp
  | displayHelpOnMissingSubcommand
  | missingSubcommand
  | invalidSubcommand
  | unknownArgument
  | tooManyValues
  | argumentConflict
  | invalidValue
  | missingRequiredArgument
  deriving DecidableEq, Repr

namespace CommandLine

inductive Subcommand where
  | list
  | layout
  | bytecode
  | check
  deriving DecidableEq, Repr

namespace Subcommand

def name : Subcommand → String
  | list => "list"
  | layout => "layout"
  | bytecode => "bytecode"
  | check => "check"

def all : List Subcommand := [list, layout, bytecode, check]

def ofName? (s : String) : Option Subcommand := all.find? fun c => c.name == s

def takesName : Subcommand → Bool
  | layout | bytecode => true
  | list | check => false

def flag? : Subcommand → Option String
  | layout => some "json"
  | bytecode => some "decoded-info"
  | list | check => none

end Subcommand

def helpName : String := "help"

def logFlag : String := "log-json"

/-- What an argument looks like before a `--`. -/
inductive Form where
  | separator
  | long (name : List Char) (attached : Bool)
  | short (first : Char)
  | word
  deriving DecidableEq, Repr

def form (arg : String) : Form :=
  match arg.toList with
  | ['-', '-'] => .separator
  | '-' :: '-' :: s => .long (s.takeWhile (· ≠ '=')) (s.contains '=')
  | '-' :: c :: _ => .short c
  | _ => .word

structure Flags where
  log : Bool := false
  own : Bool := false
  deriving DecidableEq, Repr

def once (given : Bool) (flags : Flags) : Except UsageFault Flags :=
  if given then .error .argumentConflict else .ok flags

/-- A long argument; `own` is the flag of the level. -/
def Flags.long (flags : Flags) (own : Option String) (name : List Char) (attached : Bool) :
    Except UsageFault Flags :=
  let name := String.ofList name
  if name ≠ logFlag ∧ name ≠ helpName ∧ some name ≠ own then .error .unknownArgument
  else if attached then .error .tooManyValues
  else if name = helpName then .error .displayHelp
  else if name = logFlag then once flags.log { flags with log := true }
  else once flags.own { flags with own := true }

def short (first : Char) : UsageFault :=
  if first = 'h' then .displayHelp else .unknownArgument

structure Rest where
  flags : Flags := {}
  name : Option String := none
  deriving DecidableEq, Repr

def Rest.take (r : Rest) (c : Subcommand) (arg : String) : Except UsageFault Rest :=
  if c.takesName && r.name.isNone then .ok { r with name := some arg } else .error .unknownArgument

def behindSubcommand (c : Subcommand) (r : Rest) (trailing : Bool) :
    List String → Except UsageFault Rest
  | [] => .ok r
  | arg :: args =>
    if trailing then do behindSubcommand c (← r.take c arg) true args
    else
      match form arg with
      | .separator => behindSubcommand c r true args
      | .long name attached => do
        let flags ← r.flags.long c.flag? name attached
        behindSubcommand c { r with flags } false args
      | .short first => .error (short first)
      | .word => do behindSubcommand c (← r.take c arg) false args

def help : List String → UsageFault
  | [] => .displayHelp
  | [arg] =>
    if arg = helpName || (Subcommand.ofName? arg).isSome then .displayHelp else .invalidSubcommand
  | _ => .invalidSubcommand

def environmentFlag (given : Bool) : Option String → Except UsageFault Bool
  | none => .ok given
  | some value =>
    if given then .ok true
    else if value = "true" then .ok true
    else if value = "false" then .ok false
    else .error .invalidValue

def Rest.command (r : Rest) : Subcommand → Except UsageFault Command
  | .list => .ok .list
  | .check => .ok .check
  | .layout =>
    match r.name with
    | some name => .ok (.layout name r.flags.own)
    | none => .error .missingRequiredArgument
  | .bytecode =>
    match r.name with
    | some name => .ok (.bytecode name r.flags.own)
    | none => .error .missingRequiredArgument

def finish (environment : Option String) (flags : Flags) (c : Subcommand) (r : Rest) :
    Except UsageFault Invocation := do
  let inner ← environmentFlag r.flags.log environment
  let command ← r.command c
  let outer ← environmentFlag flags.log environment
  return ⟨if r.flags.log || flags.log then true else inner || outer, command⟩

def withoutSubcommand (environment : Option String) (flags : Flags) :
    Except UsageFault Invocation := do
  let _ ← environmentFlag flags.log environment
  if flags.log || environment.isSome then .error .missingSubcommand
  else .error .displayHelpOnMissingSubcommand

def parseFrom (environment : Option String) (flags : Flags) (trailing : Bool) :
    List String → Except UsageFault Invocation
  | [] => withoutSubcommand environment flags
  | arg :: args =>
    if trailing then
      if arg = helpName || (Subcommand.ofName? arg).isSome then .error .unknownArgument
      else .error .invalidSubcommand
    else
      match Subcommand.ofName? arg with
      | some c => do finish environment flags c (← behindSubcommand c {} false args)
      | none =>
        if arg = helpName then .error (help args)
        else
          match form arg with
          | .separator => parseFrom environment flags true args
          | .long name attached => do
            parseFrom environment (← flags.long none name attached) false args
          | .short first => .error (short first)
          | .word => .error .invalidSubcommand

end CommandLine

def Invocation.parse (environment : Option String) (args : List String) :
    Except UsageFault Invocation :=
  CommandLine.parseFrom environment {} false args

end ContractAtlas
