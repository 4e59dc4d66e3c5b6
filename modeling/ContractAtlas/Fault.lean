import ContractAtlas.Hex
import ContractAtlas.Word

namespace ContractAtlas

inductive Violation where
  | overflowsSlot (label : String) (offset width : UInt64) (slot : Word)
  | wideAtOffset (label : String) (offset : UInt64)
  | outOfRange (label : String)
  | overlaps (label previous : String)
  | pastLastSlot (label : String)
  deriving DecidableEq, Repr

def Violation.message : Violation → String
  | overflowsSlot label offset width slot =>
    s!"`{label}` at offset {offset.toNat} with {width.toNat} bytes overflows slot {slot.decimal}"
  | wideAtOffset label offset =>
    s!"`{label}` spans multiple slots but starts at offset {offset.toNat}"
  | outOfRange label => s!"slot of `{label}` is out of range"
  | overlaps label previous => s!"`{label}` overlaps or precedes `{previous}`"
  | pastLastSlot label => s!"`{label}` runs past the last slot"

inductive Fault where
  | unknownContract (name : String)
  | unknownLabel (contract label : String)
  | unknownType (name : String)
  | invalidLayout (violation : Violation)
  | notScalar (label type : String)
  | notMapping (label : String)
  | emptyCode (name : String)
  | invalidCode (fault : Hex.Fault)
  deriving DecidableEq, Repr

def Fault.message : Fault → String
  | unknownContract name => s!"Unknown contract: {name}"
  | unknownLabel contract label => s!"No storage variable labelled `{label}` in {contract}"
  | unknownType name => s!"Type `{name}` is not described by the layout"
  | invalidLayout violation => s!"Invalid storage layout: {violation.message}"
  | notScalar label type => s!"Variable `{label}` of type `{type}` does not fit in one storage word"
  | notMapping label => s!"Variable `{label}` is not a mapping"
  | emptyCode name => s!"Deployed bytecode of {name} is empty"
  | invalidCode fault => s!"Invalid bytecode hex: {fault.message}"

end ContractAtlas
