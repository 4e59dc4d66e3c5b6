namespace ContractAtlas

/-- The last `n` bytes of a number. -/
def toBigEndian : Nat → Nat → List UInt8
  | 0, _ => []
  | n + 1, x => toBigEndian n (x / 256) ++ [UInt8.ofNat x]

def ofBigEndian (bytes : List UInt8) : Nat :=
  bytes.foldl (fun x b => 256 * x + b.toNat) 0

@[simp] theorem length_toBigEndian (n x : Nat) : (toBigEndian n x).length = n := by
  induction n generalizing x with
  | zero => rfl
  | succ n ih => simp [toBigEndian, ih]

@[simp] theorem ofBigEndian_nil : ofBigEndian [] = 0 := rfl

@[simp] theorem ofBigEndian_concat (bytes : List UInt8) (b : UInt8) :
    ofBigEndian (bytes ++ [b]) = 256 * ofBigEndian bytes + b.toNat := by
  simp [ofBigEndian]

theorem ofBigEndian_toBigEndian (n x : Nat) :
    ofBigEndian (toBigEndian n x) = x % (1 <<< (8 * n)) := by
  induction n generalizing x with
  | zero => simp [toBigEndian, Nat.mod_one]
  | succ n ih =>
    have : 1 <<< (8 * (n + 1)) = 256 * (1 <<< (8 * n)) := by
      simp only [Nat.one_shiftLeft, Nat.mul_add, Nat.pow_add]
      omega
    rw [toBigEndian, ofBigEndian_concat, ih, this, Nat.mod_mul, UInt8.toNat_ofNat']
    omega

end ContractAtlas
