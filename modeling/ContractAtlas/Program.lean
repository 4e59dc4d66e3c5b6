import ContractAtlas.CommandLine
import ContractAtlas.Layout.Printer
import ContractAtlas.Registry
import ContractAtlas.Report

namespace ContractAtlas

structure Environment where
  logJson : Option String := none
  noColour : Option String := none
  colour : Option String := none
  colourForced : Option String := none
  terminal : Bool := false
  deriving DecidableEq, Repr

/-- Forced colours come first, then the wish for none; else a terminal has them unless told otherwise. -/
def Environment.colours (e : Environment) : Bool :=
  match e.colourForced, e.noColour with
  | some value, noColour =>
    if value ≠ "0" then true else if noColour.isSome then false
    else e.terminal && e.colour ≠ some "0"
  | none, some _ => false
  | none, none => e.terminal && e.colour ≠ some "0"

inductive Ending where
  | success
  | failure (report : String)
  | usage (fault : UsageFault)
  deriving DecidableEq, Repr

def Ending.exitCode : Ending → UInt32
  | success => 0
  | failure _ => 1
  | usage .displayHelp => 0
  | usage _ => 2

structure Outcome where
  output : String
  ending : Ending
  deriving DecidableEq, Repr

namespace Program

def indent (s : String) : String :=
  "\n".intercalate ((s.splitOn "\n").map fun line => if line.isEmpty then line else "    " ++ line)

def caused (doing : String) (f : Fault) : String :=
  doing ++ "\n\nCaused by:\n" ++ indent f.message

def decoding (name : String) : String := s!"decoding bytecode of {name}"

variable (r : Registry) (colours : Bool)

def succeed (output : String) : Outcome := ⟨output, .success⟩

def listRow (name : String) : Except String Report := do
  let l ← (r.layout name).mapError Fault.message
  let c ← (r.code name).mapError (caused (decoding name))
  return Report.contract name l.size c (Predeploy.address? name)

def listRows : List String → Report × Option String
  | [] => (⟨[]⟩, none)
  | name :: names =>
    match listRow r name with
    | .error report => (⟨[]⟩, some report)
    | .ok row =>
      let (rows, report) := listRows names
      (row ++ rows, report)

def list : Outcome :=
  let (rows, report) := listRows r r.names
  ⟨(Report.contractsHeader r.names.length ++ rows).render colours,
    (report.map Ending.failure).getD .success⟩

def layout (name : String) (json : Bool) : Outcome :=
  match r.layout name with
  | .error f => ⟨"", .failure f.message⟩
  | .ok l => succeed (if json then l.indented ++ "\n" else (Report.layout name l).render colours)

def bytecode (name : String) (decodedInfo : Bool) : Outcome :=
  if decodedInfo then
    match r.code name with
    | .error f => ⟨"", .failure (caused (decoding name) f)⟩
    | .ok c => succeed ((Report.code name c).render colours)
  else
    match r.codeText name with
    | .error f => ⟨"", .failure f.message⟩
    | .ok s => succeed (s ++ "\n")

def checkRow (result : String × Except Fault (List Warning)) : Report :=
  match result.2 with
  | .ok _ => Report.checkPassed result.1
  | .error f => Report.checkFailed result.1 f.message

def check : Outcome :=
  let results := r.checkAll
  let failed := results.countP fun result => !result.2.isOk
  let report := Report.join (results.map checkRow) ++ Report.checkSummary results.length failed
  ⟨report.render colours,
    if failed = 0 then .success
    else .failure s!"{failed} of {results.length} contracts failed validation"⟩

def execute : Command → Outcome
  | .list => list r colours
  | .layout name json => layout r colours name json
  | .bytecode name decodedInfo => bytecode r colours name decodedInfo
  | .check => check r colours

def run (e : Environment) (args : List String) : Outcome :=
  match Invocation.parse e.logJson args with
  | .error fault => ⟨"", .usage fault⟩
  | .ok invocation => execute r e.colours invocation.command

end Program

end ContractAtlas
