import ContractAtlas.Report
import ContractAtlas.Storage
import Mathlib.Data.Int.Bitwise

/-! The arithmetic on layouts, over the integers. Results that the program checks are exact, and a result
that does not fit is a violation. Results that it does not check are left to a machine, which is bound to
the exact result only where that fits the type of the operation. -/

namespace ContractAtlas

def Fits (bits : Nat) (n : Int) : Prop := 0 ≤ n ∧ n < (2 ^ bits : Nat)

instance (bits : Nat) (n : Int) : Decidable (Fits bits n) :=
  inferInstanceAs (Decidable (0 ≤ n ∧ n < (2 ^ bits : Nat)))

inductive Stop where
  | panic
  | fault (fault : Fault)
  deriving DecidableEq, Repr

/-- What an unchecked operation in an integer type of so many bits gives for its exact result. -/
structure Machine where
  narrow : Nat → Int → Except Stop Int
  narrow_of_fits : ∀ {bits n}, Fits bits n → narrow bits n = .ok n

namespace Machine

def panicking : Machine where
  narrow bits n := if Fits bits n then .ok n else .error .panic
  narrow_of_fits h := if_pos h

def wrapping : Machine where
  narrow bits n := .ok (n % (2 ^ bits : Nat))
  narrow_of_fits h := by rw [Int.emod_eq_of_lt h.1 h.2]

def unbounded : Machine where
  narrow _ n := .ok n
  narrow_of_fits _ := rfl

def exact (w : Word) : Int := w.toNat

def ran {α β : Type} (read : α → β) : Except Fault α → Except Stop β
  | .ok a => .ok (read a)
  | .error f => .error (.fault f)

def violated {α : Type} (violation : Violation) : Except Stop α :=
  .error (.fault (.invalidLayout violation))

def checked (bits : Nat) (n : Int) (violation : Violation) : Except Stop Int :=
  if Fits bits n then .ok n else violated violation

def checkPacked (v : Variable) (d : Descriptor) : Except Stop Unit := do
  let violation := Violation.overflowsSlot v.label v.offset d.width v.slot
  let stop ← checked 64 (v.offset.toNat + d.width.toNat) violation
  if stop ≤ 32 then .ok () else violated violation

def checkAligned (v : Variable) (d : Descriptor) : Except Stop Unit :=
  if d.width.toNat ≤ 32 then checkPacked v d
  else if v.offset.toNat = 0 then .ok ()
  else violated (.wideAtOffset v.label v.offset)

def startOf (v : Variable) : Except Stop Int := do
  let first ← checked 256 (v.slot.toNat * 32) (.outOfRange v.label)
  checked 256 (first + v.offset.toNat) (.outOfRange v.label)

def checkBehind (previous : Option (String × Int)) (v : Variable) (start : Int) :
    Except Stop Unit :=
  match previous with
  | some (label, stop) => if start < stop then violated (.overlaps v.label label) else .ok ()
  | none => .ok ()

variable (m : Machine)

/-- The number of bits to shift by has to fit in a byte, so that it is below the bits of a word. -/
def shiftRight (n amount : Int) : Except Stop Int := do
  let amount ← m.narrow 8 amount
  return n >>> amount.toNat

def shiftLeft (n amount : Int) : Except Stop Int := do
  let amount ← m.narrow 8 amount
  m.narrow 256 (n <<< amount.toNat)

def slotsSpanned (d : Descriptor) : Except Stop Int :=
  let width : Int := d.width.toNat
  if width % 32 = 0 then return max (width / 32) 1
  else do
    let count ← m.narrow 64 (width / 32 + 1)
    return max count 1

def field (w offset width : Int) : Except Stop Int :=
  if 32 ≤ offset then return 0
  else do
    let amount ← m.narrow 64 (offset * 8)
    let shifted ← m.shiftRight w amount
    if 32 ≤ width then return shifted
    else do
      let bits ← m.narrow 64 (width * 8)
      let power ← m.shiftLeft 1 bits
      let mask ← m.narrow 256 (power - 1)
      return shifted.land mask

def slotAfter (l : Layout) (v : Variable) : Except Stop Int := do
  let d ← ran id (l.descriptor v.type)
  let spanned ← m.slotsSpanned d
  checked 256 (v.slot.toNat + spanned) (.pastLastSlot v.label)

def slotCount (l : Layout) : Except Stop Int :=
  l.vars.foldlM (fun last v => do
    let stop ← m.slotAfter l v
    return max last stop) 0

def occupied (d : Descriptor) : Except Stop Int :=
  if d.width.toNat ≤ 32 then return d.width.toNat
  else do
    let spanned ← m.slotsSpanned d
    m.narrow 256 (spanned * 32)

def stopOf (v : Variable) (d : Descriptor) (start : Int) : Except Stop Int := do
  let bytes ← m.occupied d
  checked 256 (start + bytes) (.pastLastSlot v.label)

def place (l : Layout) (previous : Option (String × Int)) (v : Variable) : Except Stop Int := do
  let d ← ran id (l.descriptor v.type)
  checkAligned v d
  let start ← startOf v
  checkBehind previous v start
  m.stopOf v d start

def placeAll (l : Layout) : Option (String × Int) → List Variable → Except Stop Unit
  | _, [] => .ok ()
  | previous, v :: vs => do
    let stop ← m.place l previous v
    placeAll l (some (v.label, stop)) vs

def check (l : Layout) : Except Stop Unit :=
  match l.missingType? with
  | some type => .error (.fault (.unknownType type))
  | none => m.placeAll l none l.vars

def readVariable (source : Source) (address : Address) (l : Layout) (label : String) :
    Except Stop Int := do
  let v ← ran id (l.variableNamed label)
  let d ← ran id (l.descriptor v.type)
  if !d.fitsInWord then .error (.fault (.notScalar label v.type))
  else do
    checkPacked v d
    m.field (source.word address v.slot).toNat v.offset.toNat d.width.toNat

def readMapping (source : Source) (address : Address) (l : Layout) (label : String) (key : Word) :
    Except Stop Int := do
  let v ← ran id (l.variableNamed label)
  let d ← ran id (l.descriptor v.type)
  match d.isMapping, d.value with
  | true, some type => do
    let value ← ran id (l.descriptor type)
    if !value.fitsInWord then .error (.fault (.notScalar label type))
    else m.field (source.word address (mappingSlot key v.slot)).toNat 0 value.width.toNat
  | _, _ => .error (.fault (.notMapping label))

def slotSpan (slot spanned : Int) : Except Stop String :=
  if spanned ≤ 1 then return toString slot
  else do
    let more ← m.narrow 64 (spanned - 1)
    let last := min (slot + more) (2 ^ 256 - 1 : Nat)
    return s!"{slot}..={last}"

def variableRow (l : Layout) (v : Variable) : Except Stop Line :=
  match l.types.get? v.type with
  | some d => do
    let spanned ← m.slotsSpanned d
    let slots ← m.slotSpan v.slot.toNat spanned
    return Report.row v slots (Report.plain d.label)
  | none => return Report.row v (toString v.slot.toNat) (Report.styled .alarm v.type)

def report (name : String) (l : Layout) : Except Stop Report := do
  let rows ← l.vars.mapM (m.variableRow l)
  return ⟨Report.layoutHeader name ++ rows⟩

end Machine

end ContractAtlas
