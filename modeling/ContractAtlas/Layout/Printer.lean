import ContractAtlas.Json.Value
import ContractAtlas.Layout.Basic

namespace ContractAtlas

open Json

def Variable.toValue (v : Variable) : Value :=
  .object [
    ("astId", .ofNat v.astId.toNat),
    ("contract", .string v.contract),
    ("label", .string v.label),
    ("offset", .ofNat v.offset.toNat),
    ("slot", .string v.slot.decimal),
    ("type", .string v.type)]

def optionalMember {α : Type} (name : String) (f : α → Value) (a : Option α) : List (String × Value) :=
  (a.map fun a => (name, f a)).toList

def Descriptor.toValue (d : Descriptor) : Value :=
  .object (
    [("encoding", .string d.encoding.name),
      ("label", .string d.label),
      ("numberOfBytes", .string (toString d.width.toNat))] ++
    optionalMember "base" .string d.base ++
    optionalMember "key" .string d.key ++
    optionalMember "value" .string d.value ++
    optionalMember "members" (fun vs => .list (vs.map Variable.toValue)) d.members)

def Layout.toValue (l : Layout) : Value :=
  .object [
    ("storage", .list (l.vars.map Variable.toValue)),
    ("types", .object (l.types.entries.map fun e => (e.1, e.2.toValue)))]

def Layout.compact (l : Layout) : String := String.ofList l.toValue.compact

def Layout.indented (l : Layout) : String := String.ofList (l.toValue.indented 0)

end ContractAtlas
