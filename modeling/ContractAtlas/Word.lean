import ContractAtlas.BigEndian

namespace ContractAtlas

abbrev Word := BitVec 256

abbrev Address := BitVec 160

def wordSize : UInt64 := 32

namespace Word

def greatest : Word := BitVec.allOnes 256

def ofUInt64 (n : UInt64) : Word := n.toBitVec.setWidth 256

def bytes (w : Word) : List UInt8 := toBigEndian 32 w.toNat

def ofBytes (bs : List UInt8) : Word := BitVec.ofNat 256 (ofBigEndian bs)

def add? (x y : Word) : Option Word :=
  if x.uaddOverflow y then none else some (x + y)

def mul? (x y : Word) : Option Word :=
  if x.umulOverflow y then none else some (x * y)

def addClamped (x y : Word) : Word :=
  (add? x y).getD greatest

/-- Bytes above the most significant end of the word are zero. -/
def field (w : Word) (offset width : UInt64) : Word :=
  if wordSize ≤ offset then 0
  else
    let shifted := w >>> (offset * 8).toNat
    if wordSize ≤ width then shifted
    else shifted &&& ((1 <<< (width * 8).toNat) - 1)

def decimal (w : Word) : String := toString w.toNat

@[simp] theorem toNat_ofUInt64 (n : UInt64) : (ofUInt64 n).toNat = n.toNat := by
  have := n.toNat_lt
  simp [ofUInt64]
  omega

@[simp] theorem length_bytes (w : Word) : (bytes w).length = 32 := length_toBigEndian 32 _

@[simp] theorem ofBytes_bytes (w : Word) : ofBytes (bytes w) = w := by
  apply BitVec.eq_of_toNat_eq
  rw [ofBytes, bytes, ofBigEndian_toBigEndian, BitVec.toNat_ofNat, Nat.one_shiftLeft]
  have := w.isLt
  omega

theorem bytes_inj {w v : Word} : bytes w = bytes v ↔ w = v :=
  ⟨fun h => by rw [← ofBytes_bytes w, h, ofBytes_bytes], congrArg bytes⟩

theorem add?_eq_none_iff {x y : Word} : add? x y = none ↔ greatest.toNat < x.toNat + y.toNat := by
  rw [add?, BitVec.uaddOverflow, greatest, BitVec.toNat_allOnes]
  split
  · rename_i h
    have := of_decide_eq_true h
    simp only [true_iff]
    omega
  · rename_i h
    have := mt decide_eq_true h
    simp only [reduceCtorEq, false_iff]
    omega

theorem add?_eq_some_iff {x y z : Word} : add? x y = some z ↔ z.toNat = x.toNat + y.toNat := by
  have hz := z.isLt
  rw [add?, Option.ite_none_left_eq_some, BitVec.uaddOverflow, decide_eq_true_eq, Option.some.injEq]
  constructor
  · rintro ⟨h, rfl⟩
    rw [BitVec.toNat_add]
    omega
  · intro h
    refine ⟨by omega, BitVec.eq_of_toNat_eq ?_⟩
    rw [BitVec.toNat_add]
    omega

theorem mul?_eq_some_iff {x y z : Word} : mul? x y = some z ↔ z.toNat = x.toNat * y.toNat := by
  have hz := z.isLt
  rw [mul?, Option.ite_none_left_eq_some, BitVec.umulOverflow, decide_eq_true_eq, Option.some.injEq]
  constructor
  · rintro ⟨h, rfl⟩
    rw [BitVec.toNat_mul, Nat.mod_eq_of_lt (by omega)]
  · intro h
    refine ⟨by omega, BitVec.eq_of_toNat_eq ?_⟩
    rw [BitVec.toNat_mul, Nat.mod_eq_of_lt (by omega), h]

theorem toNat_addClamped (x y : Word) :
    (addClamped x y).toNat = min (x.toNat + y.toNat) greatest.toNat := by
  rw [addClamped]
  cases h : add? x y with
  | none =>
    have := add?_eq_none_iff.mp h
    rw [Option.getD_none]
    omega
  | some z =>
    have := add?_eq_some_iff.mp h
    have := z.isLt
    rw [Option.getD_some, greatest, BitVec.toNat_allOnes]
    omega

end Word

namespace Address

def toWord (a : Address) : Word := a.setWidth 256

theorem toWord_inj {a b : Address} : toWord a = toWord b ↔ a = b := by
  simp only [toWord, BitVec.toNat_eq, BitVec.toNat_setWidth]
  have ha := a.isLt
  have hb := b.isLt
  omega

end Address

end ContractAtlas
