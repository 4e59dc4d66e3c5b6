import ContractAtlas.Text.Blank
import Mathlib.Tactic.Lemma
import Mathlib.Tactic.SplitIfs

namespace ContractAtlas.Text

lemma utf8EncodeChar_of_lt {c : Char} (h : c.toNat < 128) :
    String.utf8EncodeChar c = [UInt8.ofNat c.toNat] := by
  have hs : c.utf8Size = 1 := by
    rw [Char.utf8Size_eq_one_iff, UInt32.le_iff_toNat_le]
    exact Nat.le_of_lt_succ h
  rw [String.utf8EncodeChar_eq_singleton hs]
  rfl

lemma utf8_cons_of_lt {c : Char} (h : c.toNat < 128) (t : List Char) :
    utf8 (c :: t) = UInt8.ofNat c.toNat :: utf8 t := by
  rw [utf8, utf8, List.flatMap_cons, utf8EncodeChar_of_lt h]
  rfl

lemma le_of_mem_utf8EncodeChar {c : Char} (h : 128 ≤ c.toNat) :
    ∀ b ∈ String.utf8EncodeChar c, 128 ≤ b.toNat := by
  have hv : ¬ c.val.toNat ≤ 127 := Nat.not_le_of_lt h
  intro b hb
  simp only [String.utf8EncodeChar, if_neg hv] at hb
  split_ifs at hb
  all_goals
    simp only [List.mem_cons, List.not_mem_nil, or_false] at hb
    rcases hb with rfl | rfl | rfl | rfl <;> rw [UInt8.toNat_ofNat'] <;> omega

lemma toNat_val_lt (c : Char) : c.val.toNat < 0x110000 := by
  rcases c.valid with h | ⟨_, h⟩
  · exact Nat.lt_trans h (by decide)
  · exact h

def BytesBefore (bs ds : List UInt8) : Prop :=
  List.Lex (· < ·) bs ds

lemma BytesBefore.append_left {ds es : List UInt8} (h : BytesBefore ds es) (bs : List UInt8) :
    BytesBefore (bs ++ ds) (bs ++ es) := by
  induction bs with
  | nil => exact h
  | cons b bs ih => exact .cons ih

/-- The bytes of two characters part before those of either end, so that nothing behind them counts. -/
lemma bytesBefore_append {c d : Char} (h : c < d) (bs ds : List UInt8) :
    BytesBefore (String.utf8EncodeChar c ++ bs) (String.utf8EncodeChar d ++ ds) := by
  have hlt : c.val.toNat < d.val.toNat := UInt32.lt_iff_toNat_lt.mp h
  have hd := toNat_val_lt d
  -- each byte but the first holds one digit in base 64
  have h2 (n : Nat) : n / 4096 = n / 64 / 64 := by omega
  have h3 (n : Nat) : n / 262144 = n / 64 / 64 / 64 := by omega
  simp only [BytesBefore, String.utf8EncodeChar]
  split_ifs
  all_goals
    simp only [List.cons_append, List.nil_append, List.cons_lex_cons_iff, UInt8.lt_iff_toNat_lt,
      ← UInt8.toNat_inj, UInt8.toNat_ofNat', h2, h3]
    omega

lemma bytesBefore_of_lex {s t : List Char} (h : List.Lex (· < ·) s t) : BytesBefore (utf8 s) (utf8 t) := by
  induction h with
  | @nil d t =>
    obtain ⟨b, bs, hb⟩ := List.exists_cons_of_ne_nil (String.utf8EncodeChar_ne_nil (c := d))
    rw [utf8, utf8, List.flatMap_cons, hb]
    exact .nil
  | rel h => exact bytesBefore_append h _ _
  | cons h ih => exact ih.append_left _

lemma bytesBefore_of_lt {s t : String} (h : s < t) : BytesBefore (utf8 s.toList) (utf8 t.toList) :=
  bytesBefore_of_lex h

end ContractAtlas.Text
