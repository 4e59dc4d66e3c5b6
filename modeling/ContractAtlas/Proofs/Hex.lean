import ContractAtlas.Hex
import ContractAtlas.Proofs.Text.Utf8
import Mathlib.Logic.Basic

namespace ContractAtlas.Hex

def alphabet : List Char :=
  ['0', '1', '2', '3', '4', '5', '6', '7', '8', '9', 'a', 'b', 'c', 'd', 'e', 'f']

def IsDigit (c : Char) : Prop := c.toLower ∈ alphabet

def value (c : Char) : Nat := alphabet.idxOf c.toLower

def IsDigitByte (b : UInt8) : Prop := IsDigit (Char.ofNat b.toNat)

instance (c : Char) : Decidable (IsDigit c) := inferInstanceAs (Decidable (_ ∈ _))

instance (b : UInt8) : Decidable (IsDigitByte b) := inferInstanceAs (Decidable (IsDigit _))

inductive Spells : List Char → List UInt8 → Prop
  | nil : Spells [] []
  | pair {hi lo : Char} {b : UInt8} {ds : List Char} {bs : List UInt8} (hhi : IsDigit hi) (hlo : IsDigit lo)
      (hb : b.toNat = 16 * value hi + value lo) (hs : Spells ds bs) : Spells (hi :: lo :: ds) (b :: bs)

/-- What stops the reading of a text that spells nothing: its length is looked at before its bytes. -/
def Stops (text : List UInt8) : Fault → Prop
  | .oddLength => text.length % 2 = 1
  | .badDigit b position => text.length % 2 = 0 ∧ ∃ before after, text = before ++ b :: after ∧
      before.length = position ∧ (∀ c ∈ before, IsDigitByte c) ∧ ¬ IsDigitByte b

section Digit

variable {c : Char} {b : UInt8}

lemma IsDigit.lt (h : IsDigit c) : c.toNat < 128 := by
  have hall : alphabet.all (·.toNat < 128) = true := by decide
  by_cases hz : c.val ≤ 'Z'.val
  · exact Nat.lt_of_le_of_lt (UInt32.le_iff_toNat_le.mp hz) (by decide)
  · have hlower : c.toLower = c := dif_neg fun hc => hz hc.2
    rw [IsDigit, hlower] at h
    exact of_decide_eq_true (List.all_eq_true.mp hall c h)

lemma IsDigit.value_lt (h : IsDigit c) : value c < 16 := List.idxOf_lt_length_of_mem h

lemma digitChar_value (h : IsDigit c) : Nat.digitChar (value c) = c.toLower := by
  have hall : ∀ n (hn : n < alphabet.length), Nat.digitChar n = alphabet[n] := by decide
  exact (hall (value c) (List.idxOf_lt_length_of_mem h)).trans (List.getElem_idxOf _)

lemma digit?_eq (b : UInt8) : digit? b =
    if IsDigitByte b then some (UInt8.ofNat (value (Char.ofNat b.toNat))) else none := by
  have hall : ∀ n < 256, digit? (UInt8.ofNat n) =
      if IsDigitByte (UInt8.ofNat n) then some (UInt8.ofNat (value (Char.ofNat (UInt8.ofNat n).toNat)))
      else none := by decide +kernel
  simpa using hall b.toNat b.toNat_lt

lemma char_of_byte (h : c.toNat < 128) : Char.ofNat (UInt8.ofNat c.toNat).toNat = c := by
  rw [UInt8.toNat_ofNat_of_lt' (Nat.lt_trans h (by decide)), Char.ofNat_toNat]

lemma isDigitByte_iff (h : c.toNat < 128) : IsDigitByte (UInt8.ofNat c.toNat) ↔ IsDigit c := by
  rw [IsDigitByte, char_of_byte h]

lemma digit?_of_isDigit (h : IsDigit c) : digit? (UInt8.ofNat c.toNat) = some (UInt8.ofNat (value c)) := by
  rw [digit?_eq, if_pos ((isDigitByte_iff h.lt).mpr h), char_of_byte h.lt]

lemma not_isDigitByte_of_le (h : 128 ≤ b.toNat) : ¬ IsDigitByte b := by
  have hall : ∀ n < 256, 128 ≤ n → ¬ IsDigit (Char.ofNat n) := by decide +kernel
  exact hall b.toNat b.toNat_lt h

lemma isDigit_of_utf8 (h : ∀ b ∈ String.utf8EncodeChar c, IsDigitByte b) : IsDigit c := by
  by_cases hc : c.toNat < 128
  · rw [Text.utf8EncodeChar_of_lt hc] at h
    exact (isDigitByte_iff hc).mp (h _ (.head _))
  · -- no byte of a longer character stands for a digit
    obtain ⟨b, bs, hbs⟩ := List.exists_cons_of_ne_nil (String.utf8EncodeChar_ne_nil (c := c))
    have hmem : b ∈ String.utf8EncodeChar c := hbs ▸ .head _
    have hle := Text.le_of_mem_utf8EncodeChar (Nat.le_of_not_lt hc) b hmem
    exact absurd (h b hmem) (not_isDigitByte_of_le hle)

lemma length_utf8 {ds : List Char} (h : ∀ c ∈ ds, IsDigit c) : (Text.utf8 ds).length = ds.length := by
  induction ds with
  | nil => rfl
  | cons c ds ih =>
    rw [Text.utf8_cons_of_lt (h c (.head _)).lt, List.length_cons, List.length_cons,
      ih fun d hd => h d (.tail _ hd)]

end Digit

namespace Spells

variable {ds : List Char} {bs : List UInt8}

lemma isDigit (h : Spells ds bs) : ∀ c ∈ ds, IsDigit c := by
  induction h with
  | nil => simp
  | pair hhi hlo _ _ ih => simpa [hhi, hlo] using ih

lemma even_length (h : Spells ds bs) : ds.length % 2 = 0 := by
  induction h with
  | nil => rfl
  | pair _ _ _ _ ih =>
    simp only [List.length_cons]
    omega

lemma exists_of_isDigit : ∀ {ds : List Char}, ds.length % 2 = 0 → (∀ c ∈ ds, IsDigit c) →
    ∃ bs, Spells ds bs
  | [], _, _ => ⟨[], .nil⟩
  | [_], h, _ => by cases h
  | hi :: lo :: ds, h, hd => by
    have hhi := hd hi (.head _)
    have hlo := hd lo (.tail _ (.head _))
    have heven : ds.length % 2 = 0 := by
      simp only [List.length_cons] at h
      omega
    obtain ⟨bs, hbs⟩ := exists_of_isDigit heven fun c hc => hd c (.tail _ (.tail _ hc))
    have hb : (UInt8.ofNat (16 * value hi + value lo)).toNat = 16 * value hi + value lo := by
      have := hhi.value_lt
      have := hlo.value_lt
      exact UInt8.toNat_ofNat_of_lt' (by rw [UInt8.size]; omega)
    exact ⟨_, .pair hhi hlo hb hbs⟩

lemma encode_eq (h : Spells ds bs) : encode bs = ds.map Char.toLower := by
  induction h with
  | nil => rfl
  | @pair hi lo b ds bs hhi hlo hb hs ih =>
    have hlt := hlo.value_lt
    have hdiv : b.toNat / 16 = value hi := by omega
    have hmod : b.toNat % 16 = value lo := by omega
    rw [encode, List.flatMap_cons, hdiv, hmod, digitChar_value hhi, digitChar_value hlo, ← encode, ih]
    rfl

lemma digits_eq (h : Spells ds bs) (position : Nat) :
    (digits position (Text.utf8 ds)).map pairUp = .ok bs := by
  induction h generalizing position with
  | nil => rfl
  | @pair hi lo b ds bs hhi hlo hb hs ih =>
    have hjoin : 16 * UInt8.ofNat (value hi) + UInt8.ofNat (value lo) = b := by
      have := hhi.value_lt
      have := hlo.value_lt
      apply UInt8.toNat_inj.mp
      simp only [UInt8.toNat_add, UInt8.toNat_mul, UInt8.toNat_ofNat', UInt8.toNat_ofNat]
      omega
    have hrest := ih (position + 1 + 1)
    rw [Text.utf8_cons_of_lt hhi.lt, Text.utf8_cons_of_lt hlo.lt]
    simp only [digits, digit?_of_isDigit hhi, digit?_of_isDigit hlo]
    cases hd : digits (position + 1 + 1) (Text.utf8 ds) with
    | error e => rw [hd] at hrest; cases hrest
    | ok values =>
      rw [hd] at hrest
      simp only [Except.map, Except.ok.injEq] at hrest
      simp only [Except.map, pairUp, hrest, hjoin]

lemma decode_eq (h : Spells ds bs) : decode (Text.utf8 ds) = .ok bs := by
  have hodd : ¬ (Text.utf8 ds).length % 2 = 1 := by
    rw [length_utf8 h.isDigit, h.even_length]
    decide
  rw [decode, if_neg hodd, h.digits_eq]

lemma exists_of_bytes (heven : (Text.utf8 ds).length % 2 = 0) (h : ∀ b ∈ Text.utf8 ds, IsDigitByte b) :
    ∃ bs, Spells ds bs := by
  have hd : ∀ c ∈ ds, IsDigit c := fun c hc =>
    isDigit_of_utf8 fun b hb => h b (List.mem_flatMap.mpr ⟨c, hc, hb⟩)
  rw [length_utf8 hd] at heven
  exact exists_of_isDigit heven hd

end Spells

section Refusal

variable {before after : List UInt8} {b : UInt8}

lemma digits_append_of_not (h : ∀ c ∈ before, IsDigitByte c) (hb : ¬ IsDigitByte b) (position : Nat) :
    digits position (before ++ b :: after) = .error (.badDigit b (position + before.length)) := by
  induction before generalizing position with
  | nil =>
    rw [List.nil_append, digits, digit?_eq, if_neg hb]
    rfl
  | cons c before ih =>
    have hrest := ih (fun d hd => h d (.tail _ hd)) (position + 1)
    rw [List.cons_append, digits, digit?_eq, if_pos (h c (.head _)), hrest, List.length_cons,
      Nat.add_comm before.length, ← Nat.add_assoc]
    rfl

lemma decode_append_of_not (heven : (before ++ b :: after).length % 2 = 0)
    (h : ∀ c ∈ before, IsDigitByte c) (hb : ¬ IsDigitByte b) :
    decode (before ++ b :: after) = .error (.badDigit b before.length) := by
  rw [decode, if_neg (by omega), digits_append_of_not h hb, Nat.zero_add]
  rfl

end Refusal

lemma exists_stops {ds : List Char} (h : ¬ ∃ bs, Spells ds bs) :
    ∃ fault, Stops (Text.utf8 ds) fault ∧ decode (Text.utf8 ds) = .error fault := by
  by_cases hodd : (Text.utf8 ds).length % 2 = 1
  · exact ⟨.oddLength, hodd, if_pos hodd⟩
  · cases hfind : (Text.utf8 ds).find? fun b => !decide (IsDigitByte b) with
    | none =>
      have hall : ∀ b ∈ Text.utf8 ds, IsDigitByte b := by simpa using hfind
      exact absurd (Spells.exists_of_bytes (by omega) hall) h
    | some b =>
      obtain ⟨hb, before, after, hsplit, hbefore⟩ := List.find?_eq_some_iff_append.mp hfind
      have hdigits : ∀ c ∈ before, IsDigitByte c := by simpa using hbefore
      have hnot : ¬ IsDigitByte b := by simpa using hb
      rw [hsplit] at hodd ⊢
      have heven : (before ++ b :: after).length % 2 = 0 := by omega
      refine ⟨.badDigit b before.length, ?_, decode_append_of_not heven hdigits hnot⟩
      exact ⟨heven, before, after, rfl, rfl, hdigits, hnot⟩

end ContractAtlas.Hex
