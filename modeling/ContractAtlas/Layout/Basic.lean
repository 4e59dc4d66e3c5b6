import ContractAtlas.Table
import ContractAtlas.Word

namespace ContractAtlas

inductive Encoding where
  | inplace
  | mapping
  | dynamicArray
  | bytes
  deriving DecidableEq, Repr

namespace Encoding

def name : Encoding → String
  | inplace => "inplace"
  | mapping => "mapping"
  | dynamicArray => "dynamic_array"
  | bytes => "bytes"

def all : List Encoding := [inplace, mapping, dynamicArray, bytes]

def ofName? (s : String) : Option Encoding := all.find? fun e => e.name == s

@[simp] theorem ofName?_name (e : Encoding) : ofName? e.name = some e := by
  cases e <;> decide

end Encoding

structure Variable where
  astId : UInt64
  contract : String
  label : String
  offset : UInt64
  slot : Word
  type : String
  deriving DecidableEq, Repr

/-- What a layout says of a type; the members of a struct are placed relative to its first slot. -/
structure Descriptor where
  encoding : Encoding
  label : String
  width : UInt64
  base : Option String
  key : Option String
  value : Option String
  members : Option (List Variable)
  deriving DecidableEq, Repr

namespace Descriptor

def slotsSpanned (d : Descriptor) : UInt64 :=
  let whole := d.width / wordSize
  max (if d.width % wordSize = 0 then whole else whole + 1) 1

def fitsInWord (d : Descriptor) : Bool := d.encoding == .inplace && d.width ≤ wordSize

def isMapping (d : Descriptor) : Bool := d.encoding == .mapping

def references (d : Descriptor) : List String :=
  [d.base, d.key, d.value].filterMap id ++ (d.members.getD []).map Variable.type

theorem toNat_slotsSpanned (d : Descriptor) :
    d.slotsSpanned.toNat = max ((d.width.toNat + 31) / 32) 1 := by
  have hw := d.width.toNat_lt
  have h32 : wordSize.toNat = 32 := rfl
  have hmax (a b : UInt64) : (max a b).toNat = max a.toNat b.toNat := by
    simp only [max, UInt64.le_iff_toNat_le]
    split <;> rfl
  have hmod : (d.width % wordSize = 0) ↔ d.width.toNat % 32 = 0 := by
    rw [← UInt64.toNat_inj, UInt64.toNat_mod, h32]
    rfl
  have hadd : (d.width / wordSize + 1).toNat = d.width.toNat / 32 + 1 := by
    rw [UInt64.toNat_add, UInt64.toNat_div, h32]
    simp only [UInt64.toNat_one]
    omega
  rw [slotsSpanned, hmax]
  simp only [hmod, UInt64.toNat_one]
  by_cases h : d.width.toNat % 32 = 0
  · rw [if_pos h, UInt64.toNat_div, h32]
    omega
  · rw [if_neg h, hadd]
    omega

end Descriptor

structure Layout where
  vars : List Variable
  types : Table Descriptor
  deriving DecidableEq, Repr

end ContractAtlas
