import ContractAtlas.Json.Shape
import ContractAtlas.Proofs.Decimal.Digits
import ContractAtlas.Proofs.Json.Lexemes

/-! Which numbers are 64-bit counts: runs of digits that fit. With a sign, a fraction or an exponent a number
is read as a double or is negative, and is no count. -/

namespace ContractAtlas.Json

lemma toOption_eq_some_iff {ε α : Type} {e : Except ε α} {a : α} : e.toOption = some a ↔ e = .ok a := by
  cases e <;> simp [Except.toOption]

namespace Reader

variable {α β : Type}

def run? (r : Reader α) (s : List Char) : Option (α × List Char) := (r.run s).toOption

@[simp] lemma run?_pure (a : α) (s : List Char) : (pure a : Reader α).run? s = some (a, s) := rfl

@[simp] lemma run?_bind (r : Reader α) (f : α → Reader β) (s : List Char) :
    (r >>= f).run? s = (r.run? s).bind fun p => (f p.1).run? p.2 := by
  rw [run?, run?, run_bind]
  cases r.run s <;> rfl

@[simp] lemma run?_map (f : α → β) (r : Reader α) (s : List Char) :
    (f <$> r).run? s = (r.run? s).map fun p => (f p.1, p.2) := by
  rw [run?, run?, run_map]
  cases r.run s <;> rfl

lemma run?_bind_of_eq {r q : Reader α} {s t : List Char} (h : r.run s = q.run t) (f : α → Reader β) :
    (r >>= f).run? s = (q >>= f).run? t := by
  rw [run?, run?, run_bind, run_bind, h]

lemma run?_of_ok {r : Reader α} {s : List Char} {p : α × List Char} (h : r.run s = .ok p) :
    r.run? s = some p := by
  rw [run?, h]
  rfl

end Reader

namespace Number

def count? (digits : List Char) : Option UInt64 :=
  if digits.all Char.isDigit ∧ Nat.ofDigitChars 10 digits 0 < UInt64.size then
    some (UInt64.ofNat (Nat.ofDigitChars 10 digits 0))
  else none

def IsCount : Number → Prop
  | .integer n => 0 ≤ n
  | .decimal _ => False

lemma run?_toUInt64 {x : Number} (h : ¬ x.IsCount) (s : List Char) : x.toUInt64.run? s = none := by
  cases x with
  | integer n =>
    rw [IsCount] at h
    rw [toUInt64, if_neg h]
    rfl
  | decimal _ => rfl

def Countless (r : Reader Number) : Prop := ∀ s p, r.run s = .ok p → ¬ p.1.IsCount

lemma Countless.run? {r : Reader Number} (h : Countless r) (s : List Char) :
    (r >>= toUInt64).run? s = none := by
  rw [Reader.run?_bind]
  cases hr : r.run s with
  | error e => simp [Reader.run?, hr, Except.toOption]
  | ok p =>
    rw [Reader.run?_of_ok hr]
    exact run?_toUInt64 (h s p hr) _

lemma not_isCount_of_scaled {negative : Bool} {n : Nat} {power : Int} {x : Number}
    (h : scaled negative n power = .ok x) : ¬ x.IsCount := by
  simp only [scaled, malformed] at h
  split at h
  · cases h; exact id
  · split at h
    · split at h
      · cases h; exact id
      · cases h
    · split at h
      · cases h
      · cases h; exact id

lemma countless_ending (negative : Bool) (n : Nat) (power : Int) : Countless (ending negative n power) := by
  intro s p h
  simp only [ending] at h
  cases hx : scaled negative n power with
  | error e =>
    rw [hx] at h
    cases h
  | ok x =>
    rw [hx] at h
    cases h
    exact not_isCount_of_scaled hx

lemma countless_exponent (negative : Bool) (n : Nat) (power : Int) : Countless (exponent negative n power) := by
  intro s p h
  simp only [exponent, cut, malformed] at h
  split at h
  · cases h
  · split at h
    · cases h
    · split at h
      · split at h
        · cases h
        · cases h; exact id
      · exact countless_ending _ _ _ _ _ h

lemma countless_exponentOrEnd (negative : Bool) (n : Nat) (power : Int) :
    Countless (exponentOrEnd negative n power) := by
  intro s p h
  simp only [exponentOrEnd] at h
  split at h
  · exact countless_exponent _ _ _ _ _ h
  · exact countless_exponent _ _ _ _ _ h
  · exact countless_ending _ _ _ _ _ h

lemma countless_fraction (negative : Bool) (n : Nat) (power : Int) : Countless (fraction negative n power) := by
  intro s p h
  simp only [fraction, cut, malformed] at h
  split at h
  · exact countless_exponentOrEnd _ _ _ _ _ h
  · split at h <;> cases h

lemma countless_long (negative : Bool) (n : Nat) : Countless (long negative n) := by
  intro s p h
  simp only [long] at h
  split at h
  · exact countless_fraction _ _ _ _ _ h
  · exact countless_exponentOrEnd _ _ _ _ _ h

lemma not_isCount_whole (n : Nat) : ¬ (whole true n).IsCount := by
  simp only [whole, Bool.not_true, Bool.false_eq_true, if_false]
  split
  · exact id
  · rename_i hn
    simp only [Bool.or_eq_true, decide_eq_true_eq] at hn
    rw [IsCount]
    omega

lemma countless_afterWhole (n : Nat) : Countless (afterWhole true n) := by
  intro s p h
  simp only [afterWhole] at h
  split at h
  · exact countless_fraction _ _ _ _ _ h
  · exact countless_exponent _ _ _ _ _ h
  · exact countless_exponent _ _ _ _ _ h
  · cases h
    exact not_isCount_whole n

lemma countless_unsigned : Countless (unsigned true) := by
  intro s p h
  simp only [unsigned, cut, malformed] at h
  split at h
  · cases h
  · split at h
    · split at h
      · cases h
      · exact countless_afterWhole _ _ _ h
    · split at h
      · split at h
        · exact countless_long _ _ _ _ h
        · exact countless_afterWhole _ _ _ h
      · cases h

lemma accumulate_eq {limit n : Nat} {ds rest : List Char} (hd : ∀ c ∈ ds, c.isDigit = true)
    (hr : startsWithDigit rest = false) (h : Nat.ofDigitChars 10 ds n < limit) :
    accumulate limit n (ds ++ rest) = (Nat.ofDigitChars 10 ds n, rest) := by
  induction ds generalizing n with
  | nil =>
    cases rest with
    | nil => rfl
    | cons c t =>
      have hc : c.isDigit = false := hr
      rw [List.nil_append, accumulate, hc, Nat.ofDigitChars_nil]
      rfl
  | cons c ds ih =>
    rw [Nat.ofDigitChars_cons] at h ⊢
    have hlt := Nat.lt_of_le_of_lt (Decimal.le_ofDigitChars ds _) h
    rw [List.cons_append, accumulate, if_pos]
    · exact ih (fun d hm => hd d (.tail _ hm)) h
    · rw [hd c (.head _), Bool.true_and]
      exact decide_eq_true hlt

lemma startsWithDigit_accumulate {limit n : Nat} {ds : List Char} (rest : List Char)
    (hd : ∀ c ∈ ds, c.isDigit = true) (hn : n < limit) (h : limit ≤ Nat.ofDigitChars 10 ds n) :
    startsWithDigit (accumulate limit n (ds ++ rest)).2 = true := by
  induction ds generalizing n with
  | nil =>
    rw [Nat.ofDigitChars_nil] at h
    omega
  | cons c ds ih =>
    rw [Nat.ofDigitChars_cons] at h
    rw [List.cons_append, accumulate]
    split
    · rename_i hlt
      simp only [hd c (.head _), Bool.true_and, decide_eq_true_eq] at hlt
      exact ih (fun d hm => hd d (.tail _ hm)) hlt h
    · exact hd c (.head _)

lemma Integral.all_isDigit {i : List Char} (h : Integral i) : ∀ c ∈ i, c.isDigit = true := by
  cases h with
  | zero => simp
  | digits _ hc hd =>
    rintro d (_ | ⟨_, hm⟩)
    · exact hc
    · exact hd d hm

lemma digit_le_nine {c : Char} (h : c.isDigit = true) : digit c ≤ 9 := by
  have := (Char.isDigit_iff_toNat.mp h).2
  exact Nat.sub_le_of_le_add this

lemma Integral.run_unsigned {i t : List Char} (h : Integral i) (ht : startsWithDigit t = false)
    (hn : Nat.ofDigitChars 10 i 0 < UInt64.size) (negative : Bool) :
    (unsigned negative).run (i ++ t) = (afterWhole negative (Nat.ofDigitChars 10 i 0)).run t := by
  cases h with
  | zero => 
    simp only [unsigned, List.cons_append, List.nil_append, ht]
    rfl
  | @digits c ds hz hc hd =>
    rw [Nat.ofDigitChars_cons, Nat.mul_zero, Nat.zero_add] at hn ⊢
    have ha := accumulate_eq hd ht hn
    simp only [unsigned, List.cons_append, hz, hc, if_true, if_false, digit, ha, ht]
    rfl

lemma Integral.run_unsigned_long {i : List Char} (h : Integral i) (t : List Char)
    (hn : UInt64.size ≤ Nat.ofDigitChars 10 i 0) (negative : Bool) :
    ∃ n s, (unsigned negative).run (i ++ t) = (long negative n).run s := by
  cases h with
  | zero => exact absurd hn (by decide)
  | @digits c ds hz hc hd =>
    rw [Nat.ofDigitChars_cons, Nat.mul_zero, Nat.zero_add] at hn
    have hlt : digit c < UInt64.size := Nat.lt_of_le_of_lt (digit_le_nine hc) (by decide)
    have ha := startsWithDigit_accumulate t hd hlt hn
    refine ⟨(accumulate UInt64.size (digit c) (ds ++ t)).1, (accumulate UInt64.size (digit c) (ds ++ t)).2, ?_⟩
    simp only [unsigned, List.cons_append, hz, hc, if_true, if_false, ha]

lemma count?_of_not_isDigit {digits : List Char} {c : Char} (hm : c ∈ digits) (hc : c.isDigit = false) :
    count? digits = none := by
  refine if_neg fun h => ?_
  rw [List.all_eq_true.mp h.1 c hm] at hc
  cases hc

lemma Countless.run?_of_eq {r q : Reader Number} {s t : List Char} (h : Countless q)
    (he : r.run s = q.run t) : (r >>= toUInt64).run? s = none :=
  (Reader.run?_bind_of_eq he toUInt64).trans (h.run? t)

lemma run_afterWhole {rest : List Char} (hr : Ends rest) (negative : Bool) (n : Nat) :
    (afterWhole negative n).run rest = .ok (whole negative n, rest) := by
  simp only [afterWhole]
  split
  · exact absurd rfl (hr '.' rfl).2.1
  · exact absurd rfl (hr 'e' rfl).2.2.1
  · exact absurd rfl (hr 'E' rfl).2.2.2
  · rfl

lemma exists_countless_of_ne_nil {f x : List Char} (hf : Fractional f) (hx : Exponential x)
    (hne : f ++ x ≠ []) (negative : Bool) (n : Nat) (rest : List Char) :
    (∃ c ∈ f ++ x, c.isDigit = false) ∧ ∃ r s, Countless r ∧
      (afterWhole negative n).run (f ++ (x ++ rest)) = r.run s := by
  cases hf with
  | point _ => exact ⟨⟨'.', .head _, rfl⟩, _, _, countless_fraction _ _ _, rfl⟩
  | none =>
    cases hx with
    | none => exact absurd rfl hne
    | plain he _ =>
      rcases he with rfl | rfl <;> exact ⟨⟨_, .head _, rfl⟩, _, _, countless_exponent _ _ _, rfl⟩
    | signed he _ _ =>
      rcases he with rfl | rfl <;> exact ⟨⟨_, .head _, rfl⟩, _, _, countless_exponent _ _ _, rfl⟩

lemma Integral.run?_unsigned {i rest : List Char} (h : Integral i) (hr : Ends rest) :
    (unsigned false >>= toUInt64).run? (i ++ rest) = (count? i).map fun n => (n, rest) := by
  by_cases hn : Nat.ofDigitChars 10 i 0 < UInt64.size
  · have hw := (h.run_unsigned hr.startsWithDigit_eq hn false).trans (run_afterWhole hr false _)
    have hc : count? i = some (UInt64.ofNat (Nat.ofDigitChars 10 i 0)) :=
      if_pos ⟨List.all_eq_true.mpr h.all_isDigit, hn⟩
    rw [Reader.run?_bind, Reader.run?_of_ok hw, hc]
    rfl
  · obtain ⟨n, s, hl⟩ := h.run_unsigned_long rest (Nat.le_of_not_lt hn) false
    have hc : count? i = none := if_neg fun h => hn h.2
    rw [(countless_long false n).run?_of_eq hl, hc]
    rfl

lemma Unsigned.run?_unsigned {t rest : List Char} (h : Unsigned t) (hr : Ends rest) :
    (unsigned false >>= toUInt64).run? (t ++ rest) = (count? t).map fun n => (n, rest) := by
  obtain @⟨i, f, x, hi, hf, hx⟩ := h
  by_cases hne : f ++ x = []
  · rw [hne, List.append_nil]
    exact hi.run?_unsigned hr
  · have ht := startsWithDigit_eq_false (hf.head (hx.head hr))
    obtain ⟨⟨c, hm, hc⟩, r, s, hcount, hrun⟩ :=
      exists_countless_of_ne_nil hf hx hne false (Nat.ofDigitChars 10 i 0) rest
    rw [count?_of_not_isDigit (List.mem_append_right i hm) hc, List.append_assoc, List.append_assoc]
    by_cases hn : Nat.ofDigitChars 10 i 0 < UInt64.size
    · exact hcount.run?_of_eq ((hi.run_unsigned ht hn false).trans hrun)
    · obtain ⟨n, u, hl⟩ := hi.run_unsigned_long (f ++ (x ++ rest)) (Nat.le_of_not_lt hn) false
      exact (countless_long false n).run?_of_eq hl

lemma Lexeme.run?_read {t rest : List Char} (h : Lexeme t) (hr : Ends rest) :
    (read >>= toUInt64).run? (t ++ rest) = (count? t).map fun n => (n, rest) := by
  cases h with
  | positive hu =>
    have hb := hu.run?_unsigned hr
    obtain ⟨c, s, rfl, hc⟩ := hu.head
    refine Eq.trans (Reader.run?_bind_of_eq ?_ toUInt64) hb
    simp only [read]
    split
    · rename_i he
      cases he
      cases hc
    · rfl
  | negative hu =>
    rw [count?_of_not_isDigit (.head _) rfl]
    exact countless_unsigned.run?_of_eq rfl

lemma count?_toDigits (n : UInt64) : count? (Nat.toDigits 10 n.toNat) = some n := by
  have hd : (Nat.toDigits 10 n.toNat).all Char.isDigit = true :=
    List.all_eq_true.mpr fun _ => Decimal.isDigit_of_mem_toDigits
  rw [count?, Nat.ofDigitChars_ten_toDigits, if_pos ⟨hd, n.toNat_lt⟩, UInt64.ofNat_toNat]

end Number

end ContractAtlas.Json
