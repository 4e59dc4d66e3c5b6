import ContractAtlas.Text.Blank
import ContractAtlas.Text.Quoted

namespace ContractAtlas.Hex

def encode (bytes : List UInt8) : List Char :=
  bytes.flatMap fun b => [Nat.digitChar (b.toNat / 16), Nat.digitChar (b.toNat % 16)]

def prefixed (bytes : List UInt8) : String :=
  String.ofList ('0' :: 'x' :: encode bytes)

inductive Fault where
  | oddLength
  | badDigit (byte : UInt8) (position : Nat)
  deriving DecidableEq, Repr

def Fault.message : Fault → String
  | oddLength => "Odd number of digits"
  | badDigit byte position =>
    s!"Invalid character {Text.quotedChar (Char.ofNat byte.toNat)} at position {position}"

def digit? (b : UInt8) : Option UInt8 :=
  if 48 ≤ b ∧ b ≤ 57 then some (b - 48)
  else if 97 ≤ b ∧ b ≤ 102 then some (b - 87)
  else if 65 ≤ b ∧ b ≤ 70 then some (b - 55)
  else none

def digits (position : Nat) : List UInt8 → Except Fault (List UInt8)
  | [] => .ok []
  | b :: bs =>
    match digit? b with
    | none => .error (.badDigit b position)
    | some d => (digits (position + 1) bs).map (d :: ·)

def pairUp : List UInt8 → List UInt8
  | hi :: lo :: ds => (16 * hi + lo) :: pairUp ds
  | _ => []

def decode (text : List UInt8) : Except Fault (List UInt8) :=
  if text.length % 2 = 1 then .error .oddLength else (digits 0 text).map pairUp

def digitByte (n : Nat) : UInt8 := UInt8.ofNat (Nat.digitChar n).toNat

def digitBytes (bytes : List UInt8) : List UInt8 :=
  bytes.flatMap fun b => [digitByte (b.toNat / 16), digitByte (b.toNat % 16)]

theorem utf8_digitChar {n : Nat} (h : n < 16) :
    String.utf8EncodeChar (Nat.digitChar n) = [digitByte n] := by
  revert n
  decide

theorem digit?_digitByte {n : Nat} (h : n < 16) : digit? (digitByte n) = some (UInt8.ofNat n) := by
  revert n
  decide

theorem utf8_encode (bytes : List UInt8) : Text.utf8 (encode bytes) = digitBytes bytes := by
  induction bytes with
  | nil => rfl
  | cons b bs ih =>
    have hb := b.toNat_lt
    have hi := utf8_digitChar (n := b.toNat / 16) (by omega)
    have lo := utf8_digitChar (n := b.toNat % 16) (by omega)
    simp only [Text.utf8, encode, digitBytes] at ih
    simp [Text.utf8, encode, digitBytes, hi, lo, ih]

theorem length_digitBytes (bytes : List UInt8) : (digitBytes bytes).length = 2 * bytes.length := by
  induction bytes with
  | nil => rfl
  | cons b bs ih =>
    rw [digitBytes, List.flatMap_cons, List.length_append, ← digitBytes, ih, List.length_cons]
    simp only [List.length_cons, List.length_nil]
    omega

theorem joinDigits (b : UInt8) : 16 * UInt8.ofNat (b.toNat / 16) + UInt8.ofNat (b.toNat % 16) = b := by
  have hb := b.toNat_lt
  apply UInt8.toNat_inj.mp
  simp only [UInt8.toNat_add, UInt8.toNat_mul, UInt8.toNat_ofNat', UInt8.toNat_ofNat]
  omega

theorem digits_digitBytes (bytes : List UInt8) (position : Nat) :
    (digits position (digitBytes bytes)).map pairUp = .ok bytes := by
  induction bytes generalizing position with
  | nil => rfl
  | cons b bs ih =>
    have hb := b.toNat_lt
    have hi := digit?_digitByte (n := b.toNat / 16) (by omega)
    have lo := digit?_digitByte (n := b.toNat % 16) (by omega)
    have hs : digitBytes (b :: bs) =
      digitByte (b.toNat / 16) :: digitByte (b.toNat % 16) :: digitBytes bs := rfl
    have hrest := ih (position + 1 + 1)
    rw [hs]
    simp only [digits, hi, lo]
    cases hd : digits (position + 1 + 1) (digitBytes bs) with
    | error e => rw [hd] at hrest; cases hrest
    | ok ds =>
      rw [hd] at hrest
      simp only [Except.map, Except.ok.injEq] at hrest
      simp only [Except.map, pairUp, hrest, joinDigits]

@[simp] theorem decode_encode (bytes : List UInt8) :
    decode (Text.utf8 (encode bytes)) = .ok bytes := by
  have hlen : ¬ 2 * bytes.length % 2 = 1 := by omega
  rw [utf8_encode, decode, length_digitBytes, if_neg hlen, digits_digitBytes]

end ContractAtlas.Hex
