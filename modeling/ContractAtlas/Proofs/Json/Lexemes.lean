import ContractAtlas.Json.Skip
import ContractAtlas.Proofs.Json.Grammar

namespace ContractAtlas.Json

namespace Literal

lemma ne_code_of_unescape? {e c : Char} (h : unescape? e = some c) : e ≠ 'u' := by
  rintro rfl
  cases h

lemma isTrailing_eq_false_of_isLeading {n : Nat} (h : isLeading n = true) : isTrailing n = false := by
  simp only [isLeading, isTrailing, Bool.and_eq_true, decide_eq_true_eq, Bool.and_eq_false_iff,
    decide_eq_false_iff_not] at *
  omega

lemma behind_plain {c : Char} (hq : c ≠ '"') (hb : c ≠ '\\') (hc : 0x20 ≤ c.toNat) (t : List Char) :
    behind (c :: t) = behind t := by
  rw [behind, if_neg (by omega)]
  · exact hq
  · exact hb

lemma behind_short {e c : Char} (h : unescape? e = some c) (t : List Char) :
    behind ('\\' :: e :: t) = behind t := by
  have he := ne_code_of_unescape? h
  rw [behind, h]
  · rfl
  · exact fun _ _ _ _ _ hu => absurd hu he
  · exact he

lemma behind_code {a b c d : Char} {n : Nat} (h : quad? a b c d = some n) (t : List Char) :
    behind ('\\' :: 'u' :: a :: b :: c :: d :: t) = behind t := by
  rw [behind, h]
  rfl

lemma Spells.behind_eq {t cs rest : List Char} (h : Spells t cs rest) : behind t = .ok rest := by
  induction h with
  | close => rfl
  | plain hq hb hc _ ih => rw [behind_plain hq hb hc, ih]
  | short he _ ih => rw [behind_short he, ih]
  | code h _ _ _ ih => rw [behind_code h, ih]
  | pair h _ g _ _ ih => rw [behind_code h, behind_code g, ih]

lemma body_plain {c : Char} (hq : c ≠ '"') (hb : c ≠ '\\') (hc : 0x20 ≤ c.toNat) (t : List Char) :
    body (c :: t) = put c (body t) := by
  rw [body, if_neg (by omega)]
  · exact hq
  · exact hb

lemma body_short {e c : Char} (h : unescape? e = some c) (t : List Char) :
    body ('\\' :: e :: t) = put c (body t) := by
  have he := ne_code_of_unescape? h
  rw [body, h]
  · exact fun _ _ _ _ _ hu => absurd hu he
  · exact he

lemma body_code {a b c d : Char} {n : Nat} (h : quad? a b c d = some n) (ht : isTrailing n = false)
    (hl : isLeading n = false) (t : List Char) :
    body ('\\' :: 'u' :: a :: b :: c :: d :: t) = put (Char.ofNat n) (body t) := by
  simp only [body, h, ht, hl, Bool.false_eq_true, if_false]

lemma body_pair {a b c d e f g h : Char} {n m : Nat} (hn : quad? a b c d = some n)
    (hl : isLeading n = true) (hm : quad? e f g h = some m) (ht : isTrailing m = true) (t : List Char) :
    body ('\\' :: 'u' :: a :: b :: c :: d :: '\\' :: 'u' :: e :: f :: g :: h :: t) =
      put (paired n m) (body t) := by
  rw [body, hn]
  simp only [isTrailing_eq_false_of_isLeading hl, hl, hm, ht, Bool.false_eq_true, if_false, if_true]

lemma Spells.body_eq {t cs rest : List Char} (h : Spells t cs rest) : body t = .ok (cs, rest) := by
  induction h with
  | close => rfl
  | plain hq hb hc _ ih => rw [body_plain hq hb hc, ih]; rfl
  | short he _ ih => rw [body_short he, ih]; rfl
  | code h ht hl _ ih => rw [body_code h ht hl, ih]; rfl
  | pair hn hl hm ht _ ih => rw [body_pair hn hl hm ht, ih]; rfl

lemma run_read {s : String} {t rest : List Char} (h : Spells t s.toList rest) :
    read.run t = .ok (s, rest) := by
  simp only [read, h.body_eq, Except.map, String.ofList_toList]

lemma run_skip {cs t rest : List Char} (h : Spells t cs rest) : skip.run t = .ok ((), rest) := by
  simp only [skip, h.behind_eq, Except.map]

end Literal

namespace Number

lemma startsWithDigit_eq_false {t : List Char} (h : ∀ c ∈ t.head?, c.isDigit = false) :
    startsWithDigit t = false := by
  cases t with
  | nil => rfl
  | cons c t => exact h c rfl

lemma Ends.startsWithDigit_eq {rest : List Char} (h : Ends rest) : startsWithDigit rest = false :=
  startsWithDigit_eq_false fun c hc => (h c hc).1

lemma skipDigits_append {ds rest : List Char} (hd : ∀ c ∈ ds, c.isDigit = true)
    (hr : startsWithDigit rest = false) : skipDigits (ds ++ rest) = rest := by
  rw [skipDigits, List.dropWhile_append_of_pos hd]
  cases rest with
  | nil => rfl
  | cons c t => exact List.dropWhile_cons_of_neg (Bool.eq_false_iff.mp hr)

lemma Digits.startsWithDigit_append {ds : List Char} (h : Digits ds) (rest : List Char) :
    startsWithDigit (ds ++ rest) = true := by
  obtain ⟨hne, hd⟩ := h
  cases ds with
  | nil => exact absurd rfl hne
  | cons c t => exact hd c (.head _)

lemma sign_of_isDigit {c : Char} (h : c.isDigit = true) (t : List Char) : sign (c :: t) = (false, c :: t) := by
  rw [sign]
  · rintro _ ⟨⟩
    cases h
  · rintro _ ⟨⟩
    cases h

lemma Digits.sign_append {ds : List Char} (h : Digits ds) (rest : List Char) :
    sign (ds ++ rest) = (false, ds ++ rest) := by
  obtain ⟨hne, hd⟩ := h
  cases ds with
  | nil => exact absurd rfl hne
  | cons c t => exact sign_of_isDigit (hd c (.head _)) _

lemma behindPower_signed {s : Char} (hs : s = '+' ∨ s = '-') {ds rest : List Char} (h : Digits ds)
    (hr : Ends rest) : behindPower (s :: (ds ++ rest)) = .ok rest := by
  rcases hs with rfl | rfl <;>
    rw [behindPower, sign, if_pos (h.startsWithDigit_append _), skipDigits_append h.2 hr.startsWithDigit_eq]

lemma behindPower_append {ds rest : List Char} (h : Digits ds) (hr : Ends rest) :
    behindPower (ds ++ rest) = .ok rest := by
  rw [behindPower, h.sign_append, if_pos (h.startsWithDigit_append _),
    skipDigits_append h.2 hr.startsWithDigit_eq]

lemma Exponential.behind_eq {x rest : List Char} (h : Exponential x) (hr : Ends rest) :
    behindExponent (x ++ rest) = .ok rest := by
  cases h with
  | none =>
    cases rest with
    | nil => rfl
    | cons c t =>
      obtain ⟨_, _, he, hE⟩ := hr c rfl
      rw [List.nil_append, behindExponent]
      · exact fun _ hc => absurd (List.cons.inj hc).1 he
      · exact fun _ hc => absurd (List.cons.inj hc).1 hE
  | plain he hd => rcases he with rfl | rfl <;> exact behindPower_append hd hr
  | signed he hs hd => rcases he with rfl | rfl <;> exact behindPower_signed hs hd hr

lemma Exponential.head {x rest : List Char} (h : Exponential x) (hr : Ends rest) :
    ∀ c ∈ (x ++ rest).head?, c.isDigit = false ∧ c ≠ '.' := by
  cases h with
  | none => exact fun c hc => ⟨(hr c hc).1, (hr c hc).2.1⟩
  | plain he _ => rintro _ ⟨⟩; rcases he with rfl | rfl <;> exact ⟨rfl, by decide⟩
  | signed he _ _ => rintro _ ⟨⟩; rcases he with rfl | rfl <;> exact ⟨rfl, by decide⟩

lemma Fractional.behind_eq {f t : List Char} (h : Fractional f)
    (ht : ∀ c ∈ t.head?, c.isDigit = false ∧ c ≠ '.') : behindFraction (f ++ t) = behindExponent t := by
  cases h with
  | none =>
    cases t with
    | nil => rfl
    | cons c t =>
      rw [List.nil_append, behindFraction]
      exact fun _ hc => absurd (List.cons.inj hc).1 (ht c rfl).2
  | point hd =>
    rw [List.cons_append, behindFraction, if_pos (hd.startsWithDigit_append t),
      skipDigits_append hd.2 (startsWithDigit_eq_false fun c hc => (ht c hc).1)]

lemma Fractional.head {f t : List Char} (h : Fractional f)
    (ht : ∀ c ∈ t.head?, c.isDigit = false ∧ c ≠ '.') : ∀ c ∈ (f ++ t).head?, c.isDigit = false := by
  cases h with
  | none => exact fun c hc => (ht c hc).1
  | point _ =>
    rintro _ ⟨⟩
    rfl

lemma Integral.behind_eq {i t : List Char} (h : Integral i) (ht : startsWithDigit t = false) :
    behindUnsigned (i ++ t) = behindFraction t := by
  cases h with
  | zero =>
    have hs : skipDigits ([] ++ t) = t := skipDigits_append (by simp) ht
    rw [List.nil_append] at hs
    simp [behindUnsigned, ht, hs]
  | @digits c ds hz hc hd =>
    simp [behindUnsigned, hz, hc, skipDigits_append hd ht]

lemma Unsigned.behind_eq {t rest : List Char} (h : Unsigned t) (hr : Ends rest) :
    behindUnsigned (t ++ rest) = .ok rest := by
  obtain ⟨hi, hf, hx⟩ := h
  rw [List.append_assoc, List.append_assoc, hi.behind_eq (startsWithDigit_eq_false (hf.head (hx.head hr))),
    hf.behind_eq (hx.head hr), hx.behind_eq hr]

lemma Lexeme.behind_eq {t rest : List Char} (h : Lexeme t) (hr : Ends rest) :
    behind (t ++ rest) = .ok rest := by
  cases h with
  | positive hu =>
    have hb := hu.behind_eq hr
    obtain ⟨c, s, rfl, hc⟩ := hu.head
    rw [List.cons_append, behind]
    · exact hb
    · rintro _ ⟨⟩
      cases hc
  | negative hu => exact hu.behind_eq hr

lemma run_skip {t rest : List Char} (h : Lexeme t) (hr : Ends rest) : skip.run (t ++ rest) = .ok ((), rest) := by
  simp only [skip, h.behind_eq hr, Except.map]

end Number

end ContractAtlas.Json
