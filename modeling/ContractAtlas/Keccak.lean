import ContractAtlas.Word

namespace ContractAtlas.Keccak

/-- The lane in column `x` of row `y` stands at `5 * y + x`. -/
abbrev State := Vector UInt64 25

def lane (s : State) (x y : Nat) : UInt64 :=
  s[5 * (y % 5) + x % 5]

def ofLanes (f : Nat → Nat → UInt64) : State :=
  Vector.ofFn fun i => f (i.val % 5) (i.val / 5)

def rotate (w : UInt64) (n : Nat) : UInt64 :=
  let k := UInt64.ofNat n
  (w <<< k) ||| (w >>> (64 - k))

def roundConstants : List UInt64 :=
  [0x0000000000000001, 0x0000000000008082, 0x800000000000808a, 0x8000000080008000,
   0x000000000000808b, 0x0000000080000001, 0x8000000080008081, 0x8000000000008009,
   0x000000000000008a, 0x0000000000000088, 0x0000000080008009, 0x000000008000000a,
   0x000000008000808b, 0x800000000000008b, 0x8000000000008089, 0x8000000000008003,
   0x8000000000008002, 0x8000000000000080, 0x000000000000800a, 0x800000008000000a,
   0x8000000080008081, 0x8000000000008080, 0x0000000080000001, 0x8000000080008008]

def rotations : Vector Nat 25 := #v[
  0, 1, 62, 28, 27, 36, 44, 6, 55, 20, 3, 10, 43, 25, 39, 41, 45, 15, 21, 8, 18, 2, 61, 56, 14]

def theta (s : State) : State :=
  let parity : Vector UInt64 5 := Vector.ofFn fun x =>
    lane s x 0 ^^^ lane s x 1 ^^^ lane s x 2 ^^^ lane s x 3 ^^^ lane s x 4
  let column (x : Nat) : UInt64 := parity[x % 5]
  ofLanes fun x y => lane s x y ^^^ column (x + 4) ^^^ rotate (column (x + 1)) 1

def rhoPi (s : State) : State :=
  ofLanes fun x y =>
    let source := (x + 3 * y) % 5
    rotate (lane s source x) rotations[5 * (x % 5) + source % 5]

def chi (s : State) : State :=
  ofLanes fun x y => lane s x y ^^^ (~~~lane s (x + 1) y &&& lane s (x + 2) y)

def iota (constant : UInt64) (s : State) : State :=
  s.set 0 (s[0] ^^^ constant)

def permute (s : State) : State :=
  roundConstants.foldl (fun s constant => iota constant (chi (rhoPi (theta s)))) s

def rate : Nat := 136

def pad (message : List UInt8) : List UInt8 :=
  let gap := rate - message.length % rate
  if gap = 1 then message ++ [0x81]
  else message ++ 0x01 :: List.replicate (gap - 2) 0x00 ++ [0x80]

def littleEndian (bytes : List UInt8) : UInt64 :=
  bytes.foldr (fun b x => x * 256 + b.toUInt64) 0

def absorb (s : State) (block : List UInt8) : State :=
  permute (ofLanes fun x y =>
    lane s x y ^^^ littleEndian ((block.drop (8 * (5 * y + x))).take 8))

def blocks (message : List UInt8) : List (List UInt8) :=
  (List.range (message.length / rate)).map fun i => (message.drop (rate * i)).take rate

def laneBytes (w : UInt64) : List UInt8 := (toBigEndian 8 w.toNat).reverse

def digest (message : List UInt8) : List UInt8 :=
  let s := (blocks (pad message)).foldl absorb (Vector.replicate 25 0)
  (List.range 4).flatMap fun x => laneBytes (lane s x 0)

def hash (message : List UInt8) : Word := Word.ofBytes (digest message)

theorem length_pad (message : List UInt8) : (pad message).length % rate = 0 := by
  have hr : rate = 136 := rfl
  rw [pad]
  by_cases h : rate - message.length % rate = 1
  · rw [if_pos h, List.length_append, List.length_singleton]
    rw [hr] at h ⊢
    omega
  · rw [if_neg h]
    simp only [List.length_append, List.length_cons, List.length_replicate, List.length_nil]
    rw [hr] at h ⊢
    omega

end ContractAtlas.Keccak
