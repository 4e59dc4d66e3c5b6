import ContractAtlas.Word

namespace ContractAtlas

structure Predeploy where
  name : String
  address : Address
  deriving DecidableEq, Repr

namespace Predeploy

def messenger : Predeploy :=
  ⟨"L2CrossDomainMessenger", 0x4200000000000000000000000000000000000007#160⟩

def all : List Predeploy := [messenger]

def address? (name : String) : Option Address :=
  (all.find? fun p => p.name == name).map Predeploy.address

def name? (address : Address) : Option String :=
  (all.find? fun p => p.address == address).map Predeploy.name

theorem name?_of_address? {name : String} {address : Address} (h : address? name = some address) :
    name? address = some name := by
  simp only [address?, all, List.find?_cons, List.find?_nil] at h
  split at h
  · rename_i hn
    obtain rfl := Option.some.inj h
    obtain rfl := eq_of_beq hn
    rfl
  · cases h

end Predeploy

end ContractAtlas
