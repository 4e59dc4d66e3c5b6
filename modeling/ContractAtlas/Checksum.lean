import ContractAtlas.Hex
import ContractAtlas.Keccak

namespace ContractAtlas.Address

def bytes (a : Address) : List UInt8 := toBigEndian 20 a.toNat

def nibbles (hash : Word) : List Nat := hash.bytes.flatMap fun b => [b.toNat / 16, b.toNat % 16]

/-- A letter is a capital where the hash of the lower-case digits has a number of at least 8. -/
def text (a : Address) : String :=
  let digits := Hex.encode a.bytes
  let cased := digits.zipWith (fun c n => if 8 ≤ n then c.toUpper else c)
    (nibbles (Keccak.hash (Text.utf8 digits)))
  String.ofList ('0' :: 'x' :: cased)

end ContractAtlas.Address
