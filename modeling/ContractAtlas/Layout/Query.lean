import ContractAtlas.Fault
import ContractAtlas.Layout.Basic

namespace ContractAtlas.Layout

def size (l : Layout) : Nat := l.vars.length

def unqualified (name : String) : String :=
  String.ofList (name.toList.reverse.takeWhile (· ≠ ':')).reverse

def contractName? (l : Layout) : Option String :=
  l.vars.head?.map fun v => unqualified v.contract

def find? (l : Layout) (label : String) : Option Variable :=
  l.vars.find? fun v => v.label == label

def variableNamed (l : Layout) (label : String) : Except Fault Variable :=
  match l.find? label with
  | some v => .ok v
  | none => .error (.unknownLabel (l.contractName?.getD "<empty layout>") label)

def descriptor (l : Layout) (type : String) : Except Fault Descriptor :=
  match l.types.get? type with
  | some d => .ok d
  | none => .error (.unknownType type)

def typeOf (l : Layout) (label : String) : Except Fault Descriptor := do
  let v ← l.variableNamed label
  l.descriptor v.type

def variablesInSlot (l : Layout) (slot : Word) : List Variable :=
  l.vars.filter fun v => v.slot == slot

def slotAfter (l : Layout) (v : Variable) : Except Fault Word := do
  let d ← l.descriptor v.type
  match Word.add? v.slot (Word.ofUInt64 d.slotsSpanned) with
  | some stop => .ok stop
  | none => .error (.invalidLayout (.pastLastSlot v.label))

def slotCount (l : Layout) : Except Fault Word :=
  l.vars.foldlM (fun last v => do
    let stop ← l.slotAfter v
    return if last < stop then stop else last) 0

theorem find?_eq_some_iff {l : Layout} {label : String} {v : Variable} :
    l.find? label = some v ↔
      v.label = label ∧ ∃ before after, l.vars = before ++ v :: after ∧
        ∀ u ∈ before, u.label ≠ label := by
  simp [find?, List.find?_eq_some_iff_append]

theorem descriptor_eq_ok_iff {l : Layout} {type : String} {d : Descriptor} :
    l.descriptor type = .ok d ↔ l.types.get? type = some d := by
  rw [descriptor]
  split <;> simp_all

end ContractAtlas.Layout
