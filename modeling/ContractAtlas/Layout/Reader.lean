import ContractAtlas.Decimal.Reading
import ContractAtlas.Json.Shape
import ContractAtlas.Layout.Basic

/-!
Layouts from the JSON text that the compiler writes. A record may be written as an object, with its
members in any order and others among them, or as a list of its fields. Slots and widths are decimal
strings.
-/

namespace ContractAtlas

open Json

namespace Decimal

def slot : Reader Word := do
  let s ← Json.text
  match readSlot s with
  | .ok w => pure w
  | .error e => mismatch (.unreadable "slot" s e.message)

def byteCount : Reader UInt64 := do
  let s ← Json.text
  match readCount s with
  | .ok n => pure n
  | .error e => mismatch (.unreadable "byte count" s e.message)

end Decimal

namespace Encoding

def named (s : String) : Reader Encoding :=
  match ofName? s with
  | some e => pure e
  | none => mismatch (.unknownVariant s (all.map name))

def null : Reader Unit where
  run s :=
    match skipSpace s with
    | [] => cut .inValue
    | 'n' :: s => (word ['u', 'l', 'l']).run s
    | s => (wrongKind "unit").run s

def closeVariant : Reader Unit where
  run s :=
    match skipSpace s with
    | [] => cut .inObject
    | '\x7d' :: s => .ok ((), s)
    | _ => malformed .expectedValue

def variantName : Reader String where
  run s :=
    match skipSpace s with
    | [] => cut .inObject
    | '"' :: s => Literal.read.run s
    | '\x7d' :: _ => malformed .expectedValue
    | _ => malformed .keyNotString

def wrapped : Reader Encoding := do
  let e ← named (← variantName)
  colon
  null
  closeVariant
  return e

def reader : Reader Encoding where
  run s :=
    match skipSpace s with
    | [] => cut .inValue
    | '"' :: s => (Literal.read >>= named).run s
    | '\x7b' :: s => wrapped.run s
    | _ => malformed .expectedValue

end Encoding

namespace Variable

structure Draft where
  astId : Option UInt64 := none
  contract : Option String := none
  label : Option String := none
  offset : Option UInt64 := none
  slot : Option Word := none
  type : Option String := none

def Draft.step (key : String) (d : Draft) : Reader Draft :=
  match key with
  | "astId" => return { d with astId := ← once key d.astId number64 }
  | "contract" => return { d with contract := ← once key d.contract text }
  | "label" => return { d with label := ← once key d.label text }
  | "offset" => return { d with offset := ← once key d.offset number64 }
  | "slot" => return { d with slot := ← once key d.slot Decimal.slot }
  | "type" => return { d with type := ← once key d.type text }
  | _ => do
    unknownMember
    return d

def Draft.finish (d : Draft) : Reader Variable := do
  return {
    astId := ← present "astId" d.astId
    contract := ← present "contract" d.contract
    label := ← present "label" d.label
    offset := ← present "offset" d.offset
    slot := ← present "slot" d.slot
    type := ← present "type" d.type }

def expected : String := "struct StorageLayoutEntry"

def inOrder : Reader Variable := do
  let expected := expected ++ " with 6 elements"
  return {
    astId := ← required expected 0 number64
    contract := ← required expected 1 text
    label := ← required expected 2 text
    offset := ← required expected 3 number64
    slot := ← required expected 4 Decimal.slot
    type := ← required expected 5 text }

def reader : Reader Variable :=
  record expected inOrder do
    let d ← object Draft.step {}
    d.finish

end Variable

namespace Descriptor

structure Draft where
  encoding : Option Encoding := none
  label : Option String := none
  width : Option UInt64 := none
  base : Option (Option String) := none
  key : Option (Option String) := none
  value : Option (Option String) := none
  members : Option (Option (List Variable)) := none

def Draft.step (key : String) (d : Draft) : Reader Draft :=
  match key with
  | "encoding" => return { d with encoding := ← once key d.encoding Encoding.reader }
  | "label" => return { d with label := ← once key d.label text }
  | "numberOfBytes" => return { d with width := ← once key d.width Decimal.byteCount }
  | "base" => return { d with base := ← once key d.base (optional text) }
  | "key" => return { d with key := ← once key d.key (optional text) }
  | "value" => return { d with value := ← once key d.value (optional text) }
  | "members" => return { d with members := ← once key d.members (optional (list Variable.reader)) }
  | _ => do
    unknownMember
    return d

def Draft.finish (d : Draft) : Reader Descriptor := do
  return {
    encoding := ← present "encoding" d.encoding
    label := ← present "label" d.label
    width := ← present "numberOfBytes" d.width
    base := d.base.join
    key := d.key.join
    value := d.value.join
    members := d.members.join }

def expected : String := "struct StorageLayoutType"

def inOrder : Reader Descriptor := do
  let expected := expected ++ " with 7 elements"
  return {
    encoding := ← required expected 0 Encoding.reader
    label := ← required expected 1 text
    width := ← required expected 2 Decimal.byteCount
    base := ← defaulted none (optional text)
    key := ← defaulted none (optional text)
    value := ← defaulted none (optional text)
    members := ← defaulted none (optional (list Variable.reader)) }

def reader : Reader Descriptor :=
  record expected inOrder do
    let d ← object Draft.step {}
    d.finish

end Descriptor

namespace Layout

structure Draft where
  vars : Option (List Variable) := none
  types : Option (Table Descriptor) := none

def vars.reader : Reader (List Variable) := list Variable.reader

/-- A type that is described twice has the later description. -/
def types.reader : Reader (Table Descriptor) :=
  dictionary Descriptor.reader Table.insert Table.empty

def Draft.step (key : String) (d : Draft) : Reader Draft :=
  match key with
  | "storage" => return { d with vars := ← once key d.vars vars.reader }
  | "types" => return { d with types := ← once key d.types types.reader }
  | _ => do
    unknownMember
    return d

def Draft.finish (d : Draft) : Reader Layout := do
  return {
    vars := ← present "storage" d.vars
    types := d.types.getD Table.empty }

def expected : String := "struct StorageLayout"

def inOrder : Reader Layout := do
  let expected := expected ++ " with 2 elements"
  return {
    vars := ← required expected 0 vars.reader
    types := ← defaulted Table.empty types.reader }

def reader : Reader Layout :=
  record expected inOrder do
    let d ← object Draft.step {}
    d.finish

def ofText (s : String) : Except Json.Fault Layout := whole reader s.toList

end Layout

end ContractAtlas
