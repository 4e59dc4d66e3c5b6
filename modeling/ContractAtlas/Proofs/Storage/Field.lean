import ContractAtlas.Word
import Mathlib.Tactic.Lemma
import Mathlib.Tactic.Ring

/-! Fields of words as exact numbers, the replacement of one field, and fields beside and inside of others. -/

namespace ContractAtlas.Word

def withField (w : Word) (offset width value : Nat) : Word :=
  BitVec.ofNat 256 (w.toNat % 256 ^ offset +
    (value + w.toNat / 256 ^ (offset + width) * 256 ^ width) * 256 ^ offset)

lemma toNat_lt (w : Word) : w.toNat < 256 ^ 32 := w.isLt

lemma toNat_mul_eight {n : UInt64} (h : n.toNat < 32) : (n * 8).toNat = 8 * n.toNat := by
  rw [UInt64.toNat_mul]
  simp only [UInt64.reduceToNat]
  omega

lemma pow_byte (n : Nat) : 2 ^ (8 * n) = 256 ^ n := by
  rw [Nat.pow_mul]

lemma toNat_mask {n : UInt64} (h : n.toNat < 32) :
    (((1 <<< (n * 8).toNat : Nat) : Word) - 1).toNat = 256 ^ n.toNat - 1 := by
  have hlt : 256 ^ n.toNat < 2 ^ 256 := by
    rw [← pow_byte]
    exact Nat.pow_lt_pow_right (by omega) (by omega)
  have hpos : 0 < 256 ^ n.toNat := Nat.pow_pos (by omega)
  rw [toNat_mul_eight h, Nat.one_shiftLeft, pow_byte, BitVec.natCast_eq_ofNat, BitVec.toNat_sub,
    BitVec.toNat_ofNat, Nat.mod_eq_of_lt hlt]
  simp only [BitVec.reduceToNat]
  omega

lemma toNat_field (w : Word) (offset width : UInt64) :
    (w.field offset width).toNat = w.toNat / 256 ^ offset.toNat % 256 ^ width.toNat := by
  have hw := toNat_lt w
  have h32 (n : UInt64) : wordSize ≤ n ↔ 32 ≤ n.toNat := UInt64.le_iff_toNat_le
  have hpow {n : Nat} (h : 32 ≤ n) : 256 ^ 32 ≤ 256 ^ n := Nat.pow_le_pow_right (by omega) h
  rw [field]
  by_cases ho : 32 ≤ offset.toNat
  · rw [if_pos ((h32 offset).mpr ho), Nat.div_eq_of_lt (hw.trans_le (hpow ho)), Nat.zero_mod]
    rfl
  · have hshift : (w >>> (offset * 8).toNat).toNat = w.toNat / 256 ^ offset.toNat := by
      rw [BitVec.toNat_ushiftRight, toNat_mul_eight (by omega), Nat.shiftRight_eq_div_pow, pow_byte]
    rw [if_neg (mt (h32 offset).mp ho)]
    by_cases hn : 32 ≤ width.toNat
    · have hle : w.toNat / 256 ^ offset.toNat < 256 ^ width.toNat :=
        (Nat.div_le_self _ _).trans_lt (hw.trans_le (hpow hn))
      rw [if_pos ((h32 width).mpr hn), hshift, Nat.mod_eq_of_lt hle]
    · rw [if_neg (mt (h32 width).mp hn), BitVec.toNat_and, toNat_mask (by omega), hshift, ← pow_byte width.toNat,
        Nat.and_two_pow_sub_one_eq_mod]

section Replacement

variable {w : Word} {offset width value : Nat}

lemma toNat_withField (h : offset + width ≤ 32) (hv : value < 256 ^ width) :
    (w.withField offset width value).toNat = w.toNat % 256 ^ offset +
      (value + w.toNat / 256 ^ (offset + width) * 256 ^ width) * 256 ^ offset := by
  have hlow : w.toNat % 256 ^ offset < 256 ^ offset := Nat.mod_lt _ (Nat.pow_pos (by omega))
  have hhigh : w.toNat / 256 ^ (offset + width) < 256 ^ (32 - (offset + width)) := by
    apply Nat.div_lt_of_lt_mul
    rw [← Nat.pow_add, Nat.add_sub_cancel' h]
    exact toNat_lt w
  rw [withField, BitVec.toNat_ofNat, Nat.mod_eq_of_lt]
  calc w.toNat % 256 ^ offset + (value + w.toNat / 256 ^ (offset + width) * 256 ^ width) * 256 ^ offset
      < 256 ^ offset + (value + w.toNat / 256 ^ (offset + width) * 256 ^ width) * 256 ^ offset :=
        Nat.add_lt_add_right hlow _
    _ = (value + 1 + w.toNat / 256 ^ (offset + width) * 256 ^ width) * 256 ^ offset := by ring
    _ ≤ (256 ^ width + w.toNat / 256 ^ (offset + width) * 256 ^ width) * 256 ^ offset :=
        Nat.mul_le_mul_right _ (Nat.add_le_add_right hv _)
    _ = (w.toNat / 256 ^ (offset + width) + 1) * (256 ^ (offset + width)) := by ring
    _ ≤ 256 ^ (32 - (offset + width)) * 256 ^ (offset + width) := Nat.mul_le_mul_right _ hhigh
    _ = 256 ^ 32 := by rw [← Nat.pow_add, Nat.sub_add_cancel h]

lemma withField_div (h : offset + width ≤ 32) (hv : value < 256 ^ width) :
    (w.withField offset width value).toNat / 256 ^ offset =
      value + w.toNat / 256 ^ (offset + width) * 256 ^ width := by
  have hpos : 0 < 256 ^ offset := Nat.pow_pos (by omega)
  rw [toNat_withField h hv, Nat.add_mul_div_right _ _ hpos, Nat.div_eq_of_lt (Nat.mod_lt _ hpos),
    Nat.zero_add]

lemma withField_at (h : offset + width ≤ 32) (hv : value < 256 ^ width) :
    (w.withField offset width value).toNat / 256 ^ offset % 256 ^ width = value := by
  rw [withField_div h hv, Nat.add_mul_mod_self_right, Nat.mod_eq_of_lt hv]

lemma withField_below {low size : Nat} (h : offset + width ≤ 32) (hv : value < 256 ^ width)
    (hle : low + size ≤ offset) :
    (w.withField offset width value).toNat / 256 ^ low % 256 ^ size =
      w.toNat / 256 ^ low % 256 ^ size := by
  have hslice (x : Nat) : x / 256 ^ low % 256 ^ size = x % 256 ^ offset % 256 ^ (low + size) / 256 ^ low := by
    rw [Nat.mod_mod_of_dvd _ (Nat.pow_dvd_pow 256 hle), Nat.pow_add, Nat.mod_mul_right_div_self]
  rw [hslice, hslice w.toNat, toNat_withField h hv, Nat.add_mul_mod_self_right, Nat.mod_mod]

lemma withField_above {low : Nat} (h : offset + width ≤ 32) (hv : value < 256 ^ width)
    (hle : offset + width ≤ low) :
    (w.withField offset width value).toNat / 256 ^ low = w.toNat / 256 ^ low := by
  have hsplit (x : Nat) : x / 256 ^ low = x / 256 ^ offset / 256 ^ width / 256 ^ (low - (offset + width)) := by
    rw [Nat.div_div_eq_div_mul, Nat.div_div_eq_div_mul, ← Nat.pow_add, ← Nat.pow_add, ← Nat.add_assoc,
      Nat.add_sub_cancel' hle]
  have hpos : 0 < 256 ^ width := Nat.pow_pos (by omega)
  rw [hsplit, hsplit w.toNat, withField_div h hv, Nat.add_mul_div_right _ _ hpos, Nat.div_eq_of_lt hv,
    Nat.zero_add, Nat.div_div_eq_div_mul _ (256 ^ offset), ← Nat.pow_add]

end Replacement

section Slices

lemma mod_pow_add (x a b : Nat) :
    x % 256 ^ (a + b) = x % 256 ^ a + 256 ^ a * (x / 256 ^ a % 256 ^ b) := by
  rw [Nat.pow_add, Nat.mod_mul]

lemma slice_of_slice {p a : Nat} (h : p ≤ a) (x b : Nat) :
    x % 256 ^ a / 256 ^ p % 256 ^ b = x / 256 ^ p % 256 ^ min b (a - p) := by
  have hpow : 256 ^ a = 256 ^ p * 256 ^ (a - p) := by rw [← Nat.pow_add, Nat.add_sub_cancel' h]
  rw [hpow, Nat.mod_mul_right_div_self]
  rcases Nat.le_total b (a - p) with hle | hle
  · rw [Nat.min_eq_left hle, Nat.mod_mod_of_dvd _ (Nat.pow_dvd_pow 256 hle)]
  · have hlt : x / 256 ^ p % 256 ^ (a - p) < 256 ^ b :=
      (Nat.mod_lt _ (Nat.pow_pos (by omega))).trans_le (Nat.pow_le_pow_right (by omega) hle)
    rw [Nat.min_eq_right hle, Nat.mod_eq_of_lt hlt]

lemma toNat_add_of_lt {m n : UInt64} (h : m.toNat + n.toNat < 2 ^ 64) :
    (m + n).toNat = m.toNat + n.toNat := by
  rw [UInt64.toNat_add, Nat.mod_eq_of_lt h]

lemma toNat_min (m n : UInt64) : (min m n).toNat = min m.toNat n.toNat := by
  simp only [min, UInt64.le_iff_toNat_le]
  split <;> rfl

lemma field_append {a b offset : UInt64} (w : Word) (hwidth : a.toNat + b.toNat < 2 ^ 64)
    (hoffset : offset.toNat + a.toNat < 2 ^ 64) :
    (w.field offset (a + b)).toNat =
      (w.field offset a).toNat + 256 ^ a.toNat * (w.field (offset + a) b).toNat := by
  rw [toNat_field, toNat_field, toNat_field, toNat_add_of_lt hwidth, toNat_add_of_lt hoffset,
    mod_pow_add, Nat.div_div_eq_div_mul, ← Nat.pow_add]

lemma field_field {p a offset : UInt64} (w : Word) (hle : p ≤ a)
    (hoffset : offset.toNat + p.toNat < 2 ^ 64) (b : UInt64) :
    (w.field offset a).field p b = w.field (offset + p) (min b (a - p)) := by
  rw [UInt64.le_iff_toNat_le] at hle
  apply BitVec.eq_of_toNat_eq
  rw [toNat_field, toNat_field, toNat_field, toNat_add_of_lt hoffset, toNat_min,
    UInt64.toNat_sub_of_le _ _ (UInt64.le_iff_toNat_le.mpr hle), slice_of_slice hle,
    Nat.div_div_eq_div_mul, ← Nat.pow_add]

theorem field_slices (w : Word) :
    (∀ offset width : UInt64,
      (w.field offset width).toNat = w.toNat / 256 ^ offset.toNat % 256 ^ width.toNat) ∧
    (∀ offset a b : UInt64, a.toNat + b.toNat < 2 ^ 64 → offset.toNat + a.toNat < 2 ^ 64 →
      (w.field offset (a + b)).toNat =
        (w.field offset a).toNat + 256 ^ a.toNat * (w.field (offset + a) b).toNat) ∧
    ∀ offset a p b : UInt64, p ≤ a → offset.toNat + p.toNat < 2 ^ 64 →
      (w.field offset a).field p b = w.field (offset + p) (min b (a - p)) := by
  refine ⟨toNat_field w, ?_, ?_⟩
  · intro offset a b hwidth hoffset
    exact field_append w hwidth hoffset
  · intro offset a p b hle hoffset
    exact field_field w hle hoffset b

def ownerAndFlag : Word := 0x0100112233445566778899aabbccddeeff00112233

/-- The flag and all that is above it, and the last byte of the address. -/
theorem field_slices_ownerAndFlag :
    (20 : UInt64).toNat + (0xffffffffffffff00 : UInt64).toNat < 2 ^ 64 ∧
    (ownerAndFlag.field 0 (20 + 0xffffffffffffff00)).toNat = (ownerAndFlag.field 0 20).toNat +
      256 ^ (20 : UInt64).toNat * (ownerAndFlag.field (0 + 20) 0xffffffffffffff00).toNat ∧
    (19 : UInt64) ≤ 20 ∧
    (ownerAndFlag.field 0 20).field 19 0xffffffffffffffff =
      ownerAndFlag.field (0 + 19) (min 0xffffffffffffffff (20 - 19)) := by
  obtain ⟨-, happend, hinside⟩ := field_slices ownerAndFlag
  have hsum : (20 : UInt64).toNat + (0xffffffffffffff00 : UInt64).toNat < 2 ^ 64 := by decide
  have hle : (19 : UInt64) ≤ 20 := by decide
  exact ⟨hsum, happend 0 20 _ hsum (by decide), hle, hinside 0 20 19 _ hle (by decide)⟩

end Slices

end ContractAtlas.Word
