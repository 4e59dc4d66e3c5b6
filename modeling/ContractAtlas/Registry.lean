import ContractAtlas.Code
import ContractAtlas.Layout.Packing
import ContractAtlas.Layout.Reader
import ContractAtlas.Predeploy

namespace ContractAtlas

structure Artifact where
  name : String
  layout : String
  code : String
  deriving DecidableEq, Repr

structure Registry where
  layouts : Table Layout
  codes : Table String
  deriving DecidableEq, Repr

inductive RegistrationFault where
  | malformedLayout (name : String) (fault : Json.Fault)
  | registeredTwice (name : String)
  deriving DecidableEq, Repr

def RegistrationFault.message : RegistrationFault → String
  | malformedLayout name fault =>
    s!"embedded storage layout of {name} is malformed: {fault.message}"
  | registeredTwice name => s!"contract {name} is registered twice"

inductive Warning where
  | noMetadata (name : String)
  deriving DecidableEq, Repr

def Warning.message : Warning → String
  | noMetadata name => s!"{name}: Deployed bytecode carries no compiler metadata"

def checkContract (name : String) (l : Layout) (c : Code) : Except Fault (List Warning) := do
  l.check
  if c.isEmpty then .error (.emptyCode name)
  else return if c.splitMetadata.isNone then [.noMetadata name] else []

namespace Registry

def empty : Registry := ⟨.empty, .empty⟩

def register (r : Registry) (a : Artifact) : Except RegistrationFault Registry :=
  match Layout.ofText a.layout with
  | .error e => .error (.malformedLayout a.name e)
  | .ok l =>
    if r.layouts.contains a.name then .error (.registeredTwice a.name)
    else .ok {
      layouts := r.layouts.insert a.name l
      codes := r.codes.insert a.name (String.ofList (Text.trim a.code.toList)) }

def ofArtifacts (artifacts : List Artifact) : Except RegistrationFault Registry :=
  artifacts.foldlM register empty

def names (r : Registry) : List String := r.layouts.names

def layout (r : Registry) (name : String) : Except Fault Layout :=
  match r.layouts.get? name with
  | some l => .ok l
  | none => .error (.unknownContract name)

def codeText (r : Registry) (name : String) : Except Fault String :=
  match r.codes.get? name with
  | some s => .ok s
  | none => .error (.unknownContract name)

def code (r : Registry) (name : String) : Except Fault Code := do
  Code.ofHex (← r.codeText name)

def check (r : Registry) (name : String) : Except Fault (List Warning) := do
  checkContract name (← r.layout name) (← r.code name)

def checkAll (r : Registry) : List (String × Except Fault (List Warning)) :=
  r.names.map fun name => (name, r.check name)

end Registry

end ContractAtlas
