import ContractAtlas.Keccak
import ContractAtlas.Layout.Packing

namespace ContractAtlas

abbrev Source := Address → Word → Option Word

structure Memory where
  writes : List ((Address × Word) × Word)
  deriving DecidableEq, Repr

namespace Memory

def empty : Memory := ⟨[]⟩

def set (m : Memory) (address : Address) (slot value : Word) : Memory :=
  ⟨((address, slot), value) :: m.writes⟩

def read (m : Memory) : Source := fun address slot => m.writes.lookup (address, slot)

theorem read_set (m : Memory) (a b : Address) (s t value : Word) :
    (m.set a s value).read b t = if a = b ∧ s = t then some value else m.read b t := by
  simp only [read, set, List.lookup_cons]
  by_cases h : b = a ∧ t = s
  · simp [h]
  · have : ¬ (a = b ∧ s = t) := fun hn => h ⟨hn.1.symm, hn.2.symm⟩
    have hne : ((b, t) == (a, s)) = false := by simpa using h
    simp [this, hne]

end Memory

def mappingSlot (key slot : Word) : Word := Keccak.hash (key.bytes ++ slot.bytes)

namespace Source

variable (source : Source) (address : Address) (l : Layout)

def word (slot : Word) : Word := (source address slot).getD 0

def readVariable (label : String) : Except Fault Word := do
  let v ← l.variableNamed label
  let d ← l.descriptor v.type
  if !d.fitsInWord then .error (.notScalar label v.type)
  else do
    Layout.checkPacked v d
    return Word.field (source.word address v.slot) v.offset d.width

def readMapping (label : String) (key : Word) : Except Fault Word := do
  let v ← l.variableNamed label
  let d ← l.descriptor v.type
  match d.isMapping, d.value with
  | true, some type => do
    let value ← l.descriptor type
    if !value.fitsInWord then .error (.notScalar label type)
    else return Word.field (source.word address (mappingSlot key v.slot)) 0 value.width
  | _, _ => .error (.notMapping label)

end Source

end ContractAtlas
