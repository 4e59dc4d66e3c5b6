import ContractAtlas.Decimal.Reading
import ContractAtlas.Proofs.Text.Utf8
import Mathlib.Algebra.Group.Nat.Defs
import Mathlib.Tactic.Lemma

/-! The grammars of slots and of byte counts, in characters. Both readers look at the size of a number while
they read it; since more digits never make it smaller, that refuses a text if and only if its whole number is
too large. -/

namespace ContractAtlas.Decimal

def IsSlotText (t : List Char) : Prop := ∀ c ∈ t, c.isDigit = true ∨ c = '_'

def IsNumeral (ds : List Char) : Prop := ds ≠ [] ∧ ∀ c ∈ ds, c.isDigit = true

inductive IsCountText : List Char → Prop
  | unsigned {ds} : IsNumeral ds → IsCountText ds
  | signed {ds} : IsNumeral ds → IsCountText ('+' :: ds)

def spelled (t : List Char) : Nat := Nat.ofDigitChars 10 (t.filter Char.isDigit) 0

lemma le_ofDigitChars (ds : List Char) (n : Nat) : n ≤ Nat.ofDigitChars 10 ds n := by
  induction ds generalizing n with
  | nil => exact Nat.le_of_eq Nat.ofDigitChars_nil.symm
  | cons c ds ih =>
    rw [Nat.ofDigitChars_cons]
    exact Nat.le_trans (by omega) (ih _)

lemma isDigit_of_mem_toDigits {n : Nat} {c : Char} (h : c ∈ Nat.toDigits 10 n) : c.isDigit = true :=
  Nat.isDigit_of_mem_toDigits (by omega) (by omega) h

lemma spelled_of_isDigit {ds : List Char} (h : ∀ c ∈ ds, c.isDigit = true) :
    spelled ds = Nat.ofDigitChars 10 ds 0 := by
  rw [spelled, List.filter_eq_self.mpr h]

lemma spelled_toDigits (n : Nat) : spelled (Nat.toDigits 10 n) = n := by
  rw [spelled_of_isDigit fun _ => isDigit_of_mem_toDigits, Nat.ofDigitChars_ten_toDigits]

lemma spelled_append (s t : List Char) :
    spelled (s ++ t) = Nat.ofDigitChars 10 (t.filter Char.isDigit) (spelled s) := by
  rw [spelled, List.filter_append, Nat.ofDigitChars_append, spelled]

lemma spelled_zeros (k : Nat) : spelled (List.replicate k '0') = 0 := by
  rw [spelled_of_isDigit fun c hc => List.eq_of_mem_replicate hc ▸ rfl, Nat.ofDigitChars_replicate_zero,
    Nat.mul_zero]

lemma spelled_zeros_append (k : Nat) (t : List Char) : spelled (List.replicate k '0' ++ t) = spelled t := by
  rw [spelled_append, spelled_zeros, spelled]

section Byte

variable {c : Char}

lemma toNat_ofNat_of_lt (h : c.toNat < 128) : (UInt8.ofNat c.toNat).toNat = c.toNat :=
  UInt8.toNat_ofNat_of_lt' (Nat.lt_trans h (by decide))

lemma exists_first_byte (c : Char) (t : List Char) : ∃ b bs, Text.utf8 (c :: t) = b :: bs ∧
    (isDigitByte b = true ↔ c.isDigit = true) ∧
    ∀ a : Char, a.toNat < 128 → (b = UInt8.ofNat a.toNat ↔ c = a) := by
  by_cases hc : c.toNat < 128
  · refine ⟨_, _, Text.utf8_cons_of_lt hc t, ?_, fun a ha => ?_⟩
    · rw [isDigitByte, Bool.and_eq_true, decide_eq_true_eq, decide_eq_true_eq, UInt8.le_iff_toNat_le,
        UInt8.le_iff_toNat_le, toNat_ofNat_of_lt hc]
      exact Char.isDigit_iff_toNat.symm
    · rw [← UInt8.toNat_inj, toNat_ofNat_of_lt hc, toNat_ofNat_of_lt ha, Char.toNat_inj]
  · obtain ⟨b, bs, hbs⟩ := List.exists_cons_of_ne_nil (String.utf8EncodeChar_ne_nil (c := c))
    have hle := Text.le_of_mem_utf8EncodeChar (Nat.le_of_not_lt hc) b (hbs ▸ .head _)
    refine ⟨b, bs ++ Text.utf8 t, by rw [Text.utf8, Text.utf8, List.flatMap_cons, hbs]; rfl,
      ?_, fun a ha => ?_⟩
    · -- neither the byte of a digit nor a digit is as large as that
      have h57 : (57 : UInt8).toNat = 57 := rfl
      have h9 : '9'.toNat = 57 := rfl
      rw [isDigitByte, Bool.and_eq_true, decide_eq_true_eq, decide_eq_true_eq, UInt8.le_iff_toNat_le,
        UInt8.le_iff_toNat_le, Char.isDigit_iff_toNat]
      omega
    · rw [← UInt8.toNat_inj, toNat_ofNat_of_lt ha, ← Char.toNat_inj]
      omega

lemma utf8_cons_of_isDigit (h : c.isDigit = true) (t : List Char) :
    ∃ b, Text.utf8 (c :: t) = b :: Text.utf8 t ∧
    isDigitByte b = true ∧ b ≠ 95 ∧ b.toNat = c.toNat := by
  have hlt : c.toNat < 128 := Nat.lt_of_le_of_lt (Char.isDigit_iff_toNat.mp h).2 (by decide)
  obtain ⟨b, bs, hbs, hdigit, hother⟩ := exists_first_byte c t
  rw [Text.utf8_cons_of_lt hlt] at hbs ⊢
  obtain ⟨rfl, -⟩ := List.cons.inj hbs
  refine ⟨_, rfl, hdigit.mpr h, ?_, toNat_ofNat_of_lt hlt⟩
  intro hb
  obtain rfl := (hother '_' (by decide)).mp hb
  cases h

end Byte

section Slot

variable {c : Char} {n count : Nat} {t : List Char}

lemma slotDigits_underscore :
    slotDigits n count (Text.utf8 ('_' :: t)) = slotDigits n count (Text.utf8 t) := by
  rw [Text.utf8_cons_of_lt (by decide), slotDigits]
  exact if_pos rfl

lemma slotDigits_digit (h : c.isDigit = true) : slotDigits n count (Text.utf8 (c :: t)) =
    if (count + 1) % groupSize = 0 && Word.greatest.toNat < 10 * n + (c.toNat - '0'.toNat) then .error .tooLarge
    else slotDigits (10 * n + (c.toNat - '0'.toNat)) (count + 1) (Text.utf8 t) := by
  obtain ⟨b, hbs, hdigit, hne, hb⟩ := utf8_cons_of_isDigit h t
  rw [hbs, slotDigits, if_neg hne, hdigit, hb, if_neg (by simp)]
  rfl

lemma slotDigits_other (n count : Nat) (t : List Char) (hd : ¬ c.isDigit = true) (hu : c ≠ '_') :
    ∃ e, slotDigits n count (Text.utf8 (c :: t)) = .error e := by
  obtain ⟨b, bs, hbs, hdigit, hother⟩ := exists_first_byte c t
  have hne : b ≠ 95 := mt (hother '_' (by decide)).mp hu
  rw [hbs, slotDigits, if_neg hne, if_pos (by simpa using mt hdigit.mp hd)]
  exact ⟨_, rfl⟩

lemma slotDigits_utf8_eq_ok_iff {m : Nat} : slotDigits n count (Text.utf8 t) = .ok m ↔
    IsSlotText t ∧ Nat.ofDigitChars 10 (t.filter Char.isDigit) n = m ∧ m ≤ Word.greatest.toNat := by
  induction t generalizing n count with
  | nil =>
    rw [Text.utf8, List.flatMap_nil, slotDigits, List.filter_nil, Nat.ofDigitChars_nil]
    by_cases hn : n ≤ Word.greatest.toNat
    · simp only [if_pos hn, Except.ok.injEq, IsSlotText, List.not_mem_nil, false_imp_iff, implies_true,
        true_and]
      constructor
      · rintro rfl
        exact ⟨rfl, hn⟩
      · exact And.left
    · simp only [if_neg hn, reduceCtorEq, false_iff]
      rintro ⟨-, rfl, hle⟩
      exact hn hle
  | cons c t ih =>
    simp only [IsSlotText, List.forall_mem_cons] at ih ⊢
    by_cases hu : c = '_'
    · subst hu
      rw [slotDigits_underscore, ih, List.filter_cons_of_neg (by decide)]
      simp
    by_cases hd : c.isDigit = true
    · rw [slotDigits_digit hd, List.filter_cons_of_pos hd, Nat.ofDigitChars_cons]
      split
      · -- the number of the whole text is no smaller than what has been read
        rename_i hlt
        simp only [Bool.and_eq_true, decide_eq_true_eq] at hlt
        simp only [reduceCtorEq, false_iff]
        rintro ⟨-, rfl, hle⟩
        exact absurd (Nat.le_trans (le_ofDigitChars _ _) hle) (Nat.not_le_of_lt hlt.2)
      · simp [ih, hd]
    · obtain ⟨e, he⟩ := slotDigits_other n count t hd hu
      simp [he, hd, hu]

lemma readSlot_eq_ok_iff {s : String} {w : Word} :
    readSlot s = .ok w ↔ IsSlotText s.toList ∧ spelled s.toList = w.toNat := by
  have hle {m : Nat} : m ≤ Word.greatest.toNat ↔ m < 2 ^ 256 := by
    rw [Word.greatest, BitVec.toNat_allOnes]
    omega
  have hdigits {m : Nat} : slotDigits 0 0 (Text.utf8 s.toList) = .ok m ↔
      IsSlotText s.toList ∧ spelled s.toList = m ∧ m ≤ Word.greatest.toNat := slotDigits_utf8_eq_ok_iff
  rw [readSlot]
  constructor
  · intro h
    cases hm : slotDigits 0 0 (Text.utf8 s.toList) with
    | error e =>
      rw [hm] at h
      cases h
    | ok m =>
      rw [hm] at h
      cases h
      obtain ⟨ht, hs, hm⟩ := hdigits.mp hm
      exact ⟨ht, by rw [BitVec.toNat_ofNat, Nat.mod_eq_of_lt (hle.mp hm), hs]⟩
  · rintro ⟨ht, hs⟩
    rw [hdigits.mpr ⟨ht, hs, hle.mpr w.isLt⟩, Except.map, BitVec.ofNat_toNat]
    rfl

lemma exists_readSlot_iff {s : String} :
    (∃ w, readSlot s = .ok w) ↔ IsSlotText s.toList ∧ spelled s.toList < 2 ^ 256 := by
  simp only [readSlot_eq_ok_iff]
  constructor
  · rintro ⟨w, ht, hs⟩
    exact ⟨ht, hs ▸ w.isLt⟩
  · rintro ⟨ht, hlt⟩
    exact ⟨BitVec.ofNat 256 (spelled s.toList), ht, (Nat.mod_eq_of_lt hlt).symm⟩

lemma readSlot_decimal (w : Word) : readSlot w.decimal = .ok w := by
  rw [readSlot_eq_ok_iff, Word.decimal, Nat.toString_eq_repr, Nat.toList_repr, spelled_toDigits]
  exact ⟨fun c hc => .inl (isDigit_of_mem_toDigits hc), rfl⟩

end Slot

section Count

variable {c : Char} {n : Nat} {t : List Char}

lemma countDigits_digit (h : c.isDigit = true) : countDigits n (Text.utf8 (c :: t)) =
    if 10 * n + (c.toNat - '0'.toNat) < UInt64.size then
      countDigits (10 * n + (c.toNat - '0'.toNat)) (Text.utf8 t)
    else .error .tooLarge := by
  obtain ⟨b, hbs, hdigit, -, hb⟩ := utf8_cons_of_isDigit h t
  rw [hbs, countDigits, hdigit, hb, if_neg (by simp)]
  rfl

lemma countDigits_other (n : Nat) (t : List Char) (h : ¬ c.isDigit = true) :
    ∃ e, countDigits n (Text.utf8 (c :: t)) = .error e := by
  obtain ⟨b, bs, hbs, hdigit, -⟩ := exists_first_byte c t
  rw [hbs, countDigits, if_pos (by simpa using mt hdigit.mp h)]
  exact ⟨_, rfl⟩

lemma countDigits_utf8_eq_ok_iff {m : Nat} (hn : n < UInt64.size) : countDigits n (Text.utf8 t) = .ok m ↔
    (∀ c ∈ t, c.isDigit = true) ∧ Nat.ofDigitChars 10 t n = m ∧ m < UInt64.size := by
  induction t generalizing n with
  | nil =>
    rw [Text.utf8, List.flatMap_nil, countDigits, Nat.ofDigitChars_nil]
    simp only [Except.ok.injEq, List.not_mem_nil, false_imp_iff, implies_true, true_and]
    constructor
    · rintro rfl
      exact ⟨rfl, hn⟩
    · exact And.left
  | cons c t ih =>
    rw [List.forall_mem_cons]
    by_cases hd : c.isDigit = true
    · rw [countDigits_digit hd, Nat.ofDigitChars_cons]
      split
      · rename_i hlt
        rw [ih hlt]
        simp [hd]
      · rename_i hge
        simp only [reduceCtorEq, false_iff]
        rintro ⟨-, rfl, hlt⟩
        exact hge (Nat.lt_of_le_of_lt (le_ofDigitChars _ _) hlt)
    · obtain ⟨e, he⟩ := countDigits_other n t hd
      simp [he, hd]

lemma map_countDigits_eq_ok_iff {m : UInt64} :
    (countDigits 0 (Text.utf8 t)).map UInt64.ofNat = .ok m ↔
      (∀ c ∈ t, c.isDigit = true) ∧ Nat.ofDigitChars 10 t 0 = m.toNat := by
  have hdigits {k : Nat} : countDigits 0 (Text.utf8 t) = .ok k ↔
      (∀ c ∈ t, c.isDigit = true) ∧ Nat.ofDigitChars 10 t 0 = k ∧ k < UInt64.size :=
    countDigits_utf8_eq_ok_iff (by decide)
  constructor
  · intro h
    cases hk : countDigits 0 (Text.utf8 t) with
    | error e =>
      rw [hk] at h
      cases h
    | ok k =>
      rw [hk] at h
      cases h
      obtain ⟨ht, hs, hlt⟩ := hdigits.mp hk
      exact ⟨ht, hs.trans (UInt64.toNat_ofNat_of_lt' hlt).symm⟩
  · rintro ⟨ht, hs⟩
    rw [hdigits.mpr ⟨ht, hs, m.toNat_lt⟩, Except.map, UInt64.ofNat_toNat]

lemma readCount_of_signed {s : String} (h : s.toList = '+' :: t) (ht : t ≠ []) :
    readCount s = (countDigits 0 (Text.utf8 t)).map UInt64.ofNat := by
  obtain ⟨c, u, rfl⟩ := List.exists_cons_of_ne_nil ht
  obtain ⟨b, bs, hbs, -⟩ := exists_first_byte c u
  rw [readCount, h, Text.utf8_cons_of_lt (by decide), hbs]
  rfl

lemma readCount_of_unsigned {s : String} (h : s.toList = c :: t) (hc : c ≠ '+') :
    readCount s = (countDigits 0 (Text.utf8 (c :: t))).map UInt64.ofNat := by
  obtain ⟨b, bs, hbs, -, hother⟩ := exists_first_byte c t
  have hb : b ≠ 43 := mt (hother '+' (by decide)).mp hc
  rw [readCount, h, hbs]
  split
  · rename_i he
    cases he
  · rename_i he
    exact absurd (List.cons.inj he).1 hb
  · rename_i he
    exact absurd (List.cons.inj he).1 hb
  · rfl

lemma isCountText_signed_iff : IsCountText ('+' :: t) ↔ IsNumeral t := by
  constructor
  · intro h
    cases h with
    | unsigned hd => cases hd.2 '+' (.head _)
    | signed hd => exact hd
  · exact .signed

lemma isCountText_unsigned_iff (hc : c ≠ '+') : IsCountText (c :: t) ↔ IsNumeral (c :: t) := by
  constructor
  · intro h
    cases h with
    | unsigned hd => exact hd
    | signed _ => exact absurd rfl hc
  · exact .unsigned

lemma readCount_eq_ok_iff {s : String} {m : UInt64} :
    readCount s = .ok m ↔ IsCountText s.toList ∧ spelled s.toList = m.toNat := by
  have hvalue {ds : List Char} : (∀ c ∈ ds, c.isDigit = true) ∧ Nat.ofDigitChars 10 ds 0 = m.toNat ↔
      (∀ c ∈ ds, c.isDigit = true) ∧ spelled ds = m.toNat :=
    and_congr_right fun h => by rw [spelled_of_isDigit h]
  cases hs : s.toList with
  | nil =>
    rw [readCount, hs]
    simp only [Text.utf8, List.flatMap_nil, reduceCtorEq, false_iff]
    rintro ⟨h, -⟩
    cases h with
    | unsigned hd => exact hd.1 rfl
  | cons c t =>
    by_cases hc : c = '+'
    · subst hc
      rw [isCountText_signed_iff, show spelled ('+' :: t) = spelled t from rfl]
      by_cases ht : t = []
      · subst ht
        have hplus : Text.utf8 ['+'] = [43] := Text.utf8_cons_of_lt (by decide) []
        rw [readCount, hs, hplus]
        simp [IsNumeral]
      · rw [readCount_of_signed hs ht, map_countDigits_eq_ok_iff, hvalue, IsNumeral]
        simp [ht]
    · rw [readCount_of_unsigned hs hc, map_countDigits_eq_ok_iff, hvalue, isCountText_unsigned_iff hc, IsNumeral]
      simp

lemma exists_readCount_iff {s : String} :
    (∃ m, readCount s = .ok m) ↔ IsCountText s.toList ∧ spelled s.toList < 2 ^ 64 := by
  simp only [readCount_eq_ok_iff]
  constructor
  · rintro ⟨m, ht, hs⟩
    exact ⟨ht, hs ▸ m.toNat_lt⟩
  · rintro ⟨ht, hlt⟩
    exact ⟨UInt64.ofNat (spelled s.toList), ht, (UInt64.toNat_ofNat_of_lt' hlt).symm⟩

lemma readCount_toString (n : UInt64) : readCount (toString n.toNat) = .ok n := by
  rw [readCount_eq_ok_iff, Nat.toString_eq_repr, Nat.toList_repr, spelled_toDigits]
  exact ⟨.unsigned ⟨Nat.toDigits_ne_nil, fun _ => isDigit_of_mem_toDigits⟩, rfl⟩

end Count

end ContractAtlas.Decimal
