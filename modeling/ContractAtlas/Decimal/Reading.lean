import ContractAtlas.Text.Blank
import ContractAtlas.Word

/-!
Decimal texts of slots and of byte counts. A slot may have underscores anywhere and may have no digit at
all; a byte count may have one plus sign in front and needs a digit. Both are read from left to right,
and the first thing that is wrong is the fault. A byte count is checked for its size at every digit, a slot
only where a group of 19 digits is full and at its end, so that a wrong byte in a group comes before the
size of the group.
-/

namespace ContractAtlas.Decimal

def isDigitByte (b : UInt8) : Bool := 48 ≤ b && b ≤ 57

inductive SlotFault where
  | badDigit (byte : UInt8)
  | tooLarge
  deriving DecidableEq, Repr

def SlotFault.message : SlotFault → String
  | badDigit byte => s!"invalid digit: {Char.ofNat byte.toNat}"
  | tooLarge => "the value is too large to fit the target type"

/-- The most digits whose number always fits 64 bits. -/
def groupSize : Nat := 19

def slotDigits (n count : Nat) : List UInt8 → Except SlotFault Nat
  | [] => if n ≤ Word.greatest.toNat then .ok n else .error .tooLarge
  | b :: bs =>
    if b = 95 then slotDigits n count bs
    else if !isDigitByte b then .error (.badDigit b)
    else
      let m := 10 * n + (b.toNat - 48)
      if (count + 1) % groupSize = 0 && Word.greatest.toNat < m then .error .tooLarge
      else slotDigits m (count + 1) bs

def readSlot (s : String) : Except SlotFault Word :=
  (slotDigits 0 0 (Text.utf8 s.toList)).map (BitVec.ofNat 256)

inductive CountFault where
  | empty
  | badDigit
  | tooLarge
  deriving DecidableEq, Repr

def CountFault.message : CountFault → String
  | empty => "cannot parse integer from empty string"
  | badDigit => "invalid digit found in string"
  | tooLarge => "number too large to fit in target type"

def countDigits (n : Nat) : List UInt8 → Except CountFault Nat
  | [] => .ok n
  | b :: bs =>
    if !isDigitByte b then .error .badDigit
    else
      let m := 10 * n + (b.toNat - 48)
      if m < UInt64.size then countDigits m bs else .error .tooLarge

def readCount (s : String) : Except CountFault UInt64 :=
  match Text.utf8 s.toList with
  | [] => .error .empty
  | [43] => .error .badDigit
  | 43 :: bs => (countDigits 0 bs).map UInt64.ofNat
  | bs => (countDigits 0 bs).map UInt64.ofNat

end ContractAtlas.Decimal
