import ContractAtlas.BigEndian
import Mathlib.Algebra.Group.Nat.Defs
import Mathlib.Data.List.Induction
import Mathlib.Tactic.Lemma

namespace ContractAtlas

lemma toBigEndian_ofBigEndian (bytes : List UInt8) :
    toBigEndian bytes.length (ofBigEndian bytes) = bytes := by
  induction bytes using List.reverseRecOn with
  | nil => rfl
  | append_singleton bytes b ih =>
    have hb := b.toNat_lt
    have hdiv : (256 * ofBigEndian bytes + b.toNat) / 256 = ofBigEndian bytes := by omega
    have hlast : UInt8.ofNat (256 * ofBigEndian bytes + b.toNat) = b := by
      apply UInt8.toNat_inj.mp
      rw [UInt8.toNat_ofNat']
      omega
    rw [List.length_append, List.length_singleton, toBigEndian, ofBigEndian_concat, hdiv, ih, hlast]

lemma ofBigEndian_inj {bs cs : List UInt8} (h : bs.length = cs.length) :
    ofBigEndian bs = ofBigEndian cs ↔ bs = cs := by
  constructor
  · intro he
    rw [← toBigEndian_ofBigEndian bs, he, h, toBigEndian_ofBigEndian]
  · exact congrArg ofBigEndian

lemma ofBigEndian_toBigEndian_mod (n x : Nat) : ofBigEndian (toBigEndian n x) = x % 256 ^ n := by
  rw [ofBigEndian_toBigEndian, Nat.one_shiftLeft, Nat.pow_mul]

lemma toBigEndian_append (m n x : Nat) :
    toBigEndian (m + n) x = toBigEndian m (x / 256 ^ n) ++ toBigEndian n x := by
  induction n generalizing x with
  | zero => simp [toBigEndian]
  | succ n ih =>
    have hdiv : x / 256 / 256 ^ n = x / 256 ^ (n + 1) := by
      rw [Nat.div_div_eq_div_mul, Nat.pow_succ']
    rw [← Nat.add_assoc, toBigEndian, toBigEndian, ih, hdiv, List.append_assoc]

lemma slice_toBigEndian {size offset n : Nat} (h : offset + n ≤ size) (x : Nat) :
    ((toBigEndian size x).take (size - offset)).drop (size - offset - n) = toBigEndian n (x / 256 ^ offset) := by
  obtain ⟨m, rfl⟩ := Nat.exists_eq_add_of_le' h
  have htake : m + (offset + n) - offset = m + n := by omega
  have hdrop : m + n - n = m := Nat.add_sub_cancel m n
  have hsize : m + (offset + n) = m + n + offset := by omega
  rw [htake, hdrop, hsize, toBigEndian_append, List.take_left' (length_toBigEndian _ _), toBigEndian_append,
    List.drop_left' (length_toBigEndian _ _)]

end ContractAtlas
