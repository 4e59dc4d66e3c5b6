import ContractAtlas.Json.Number
import ContractAtlas.Json.Value
import Mathlib.Tactic.Lemma

/-! The grammar of JSON texts, apart from any reader. In each relation the first text begins with what is
spelled and goes on with the last. -/

namespace ContractAtlas.Json

inductive Gap : List Char → List Char → Prop
  | none {rest} : Gap rest rest
  | space {c t rest} : isSpace c = true → Gap t rest → Gap (c :: t) rest

inductive Literal.Spells : List Char → List Char → List Char → Prop
  | close {rest} : Spells ('"' :: rest) [] rest
  | plain {c t cs rest} : c ≠ '"' → c ≠ '\\' → 0x20 ≤ c.toNat → Spells t cs rest →
      Spells (c :: t) (c :: cs) rest
  | short {e c t cs rest} : unescape? e = some c → Spells t cs rest →
      Spells ('\\' :: e :: t) (c :: cs) rest
  | code {a b c d n t cs rest} : quad? a b c d = some n → isTrailing n = false → isLeading n = false →
      Spells t cs rest → Spells ('\\' :: 'u' :: a :: b :: c :: d :: t) (Char.ofNat n :: cs) rest
  | pair {a b c d n e f g h m t cs rest} : quad? a b c d = some n → isLeading n = true →
      quad? e f g h = some m → isTrailing m = true → Spells t cs rest →
      Spells ('\\' :: 'u' :: a :: b :: c :: d :: '\\' :: 'u' :: e :: f :: g :: h :: t)
        (paired n m :: cs) rest

namespace Number

def Digits (ds : List Char) : Prop := ds ≠ [] ∧ ∀ c ∈ ds, c.isDigit = true

inductive Integral : List Char → Prop
  | zero : Integral ['0']
  | digits {c ds} : c ≠ '0' → c.isDigit = true → (∀ d ∈ ds, d.isDigit = true) → Integral (c :: ds)

inductive Fractional : List Char → Prop
  | none : Fractional []
  | point {ds} : Digits ds → Fractional ('.' :: ds)

inductive Exponential : List Char → Prop
  | none : Exponential []
  | plain {e ds} : e = 'e' ∨ e = 'E' → Digits ds → Exponential (e :: ds)
  | signed {e s ds} : e = 'e' ∨ e = 'E' → s = '+' ∨ s = '-' → Digits ds → Exponential (e :: s :: ds)

inductive Unsigned : List Char → Prop
  | parts {i f x} : Integral i → Fractional f → Exponential x → Unsigned (i ++ (f ++ x))

inductive Lexeme : List Char → Prop
  | positive {t} : Unsigned t → Lexeme t
  | negative {t} : Unsigned t → Lexeme ('-' :: t)

def Ends (rest : List Char) : Prop :=
  ∀ c ∈ rest.head?, c.isDigit = false ∧ c ≠ '.' ∧ c ≠ 'e' ∧ c ≠ 'E'

end Number

inductive Comma : Bool → List Char → List Char → Prop
  | first {t u} : Gap t u → Comma true t u
  | next {t m u} : Gap t (',' :: m) → Gap m u → Comma false t u

mutual

inductive Spells : List Char → Value → List Char → Prop
  | null {rest} : Spells ('n' :: 'u' :: 'l' :: 'l' :: rest) .null rest
  | boolean {b rest} : Spells (Value.wordOf b ++ rest) (.boolean b) rest
  | number {digits rest} : Number.Lexeme digits → Number.Ends rest →
      Spells (digits ++ rest) (.number digits) rest
  | string {s t rest} : Literal.Spells t s.toList rest → Spells ('"' :: t) (.string s) rest
  | list {t vs rest} : Elements true t vs rest → Spells ('[' :: t) (.list vs) rest
  | object {t ms rest} : Members true t ms rest → Spells ('\x7b' :: t) (.object ms) rest

inductive Elements : Bool → List Char → List Value → List Char → Prop
  | close {first t rest} : Gap t (']' :: rest) → Elements first t [] rest
  | more {first t u v mid vs rest} : Comma first t u → Spells u v mid → Elements false mid vs rest →
      Elements first t (v :: vs) rest

inductive Members : Bool → List Char → List (String × Value) → List Char → Prop
  | close {first t rest} : Gap t ('\x7d' :: rest) → Members first t [] rest
  | more {first t u k m v mid ms rest} : Comma first t ('"' :: u) → Literal.Spells u k.toList m →
      Assigned m v mid → Members false mid ms rest → Members first t ((k, v) :: ms) rest

inductive Assigned : List Char → Value → List Char → Prop
  | colon {t m u v rest} : Gap t (':' :: m) → Gap m u → Spells u v rest → Assigned t v rest

end

def IsText (t : List Char) (v : Value) : Prop := ∃ u rest, Gap t u ∧ Spells u v rest ∧ Gap rest []

lemma Gap.skipSpace_eq {t rest : List Char} (h : Gap t rest) : skipSpace t = skipSpace rest := by
  induction h with
  | none => rfl
  | space hc _ ih => rw [skipSpace_cons, if_pos hc, ih]

lemma Gap.length_le {t rest : List Char} (h : Gap t rest) : rest.length ≤ t.length := by
  induction h with
  | none => exact Nat.le_refl _
  | space _ _ ih => exact Nat.le_succ_of_le ih

lemma skipSpace_of_not_isSpace {c : Char} {t : List Char} (h : isSpace c = false) :
    skipSpace (c :: t) = c :: t := by
  rw [skipSpace_cons, h, if_neg Bool.false_ne_true]

lemma isSpace_eq_false_of_isDigit {c : Char} (h : c.isDigit = true) : isSpace c = false := by
  rw [isSpace, Bool.eq_false_iff]
  intro hs
  simp only [Bool.or_eq_true, beq_iff_eq] at hs
  rcases hs with ((rfl | rfl) | rfl) | rfl <;> cases h

def Opens : Value → Char → Prop
  | .null, c => c = 'n'
  | .boolean b, c => c = if b then 't' else 'f'
  | .number _, c => c = '-' ∨ c.isDigit = true
  | .string _, c => c = '"'
  | .list _, c => c = '['
  | .object _, c => c = '\x7b'

lemma Number.Unsigned.head {t : List Char} (h : Unsigned t) : ∃ c s, t = c :: s ∧ c.isDigit = true := by
  cases h with
  | parts hi _ _ =>
    cases hi with
    | zero => exact ⟨_, _, rfl, rfl⟩
    | digits _ hc _ => exact ⟨_, _, rfl, hc⟩

lemma Number.Lexeme.head {t : List Char} (h : Lexeme t) :
    ∃ c s, t = c :: s ∧ (c = '-' ∨ c.isDigit = true) := by
  cases h with
  | positive hu =>
    obtain ⟨c, s, rfl, hc⟩ := hu.head
    exact ⟨c, s, rfl, .inr hc⟩
  | negative _ => exact ⟨_, _, rfl, .inl rfl⟩

lemma Number.Integral.lexeme {i : List Char} (h : Integral i) : Lexeme i := by
  have hu := Unsigned.parts h .none .none
  rw [List.append_nil, List.append_nil] at hu
  exact .positive hu

lemma Spells.head {t rest : List Char} {v : Value} (h : Spells t v rest) :
    ∃ c s, t = c :: s ∧ Opens v c := by
  cases h with
  | null => exact ⟨_, _, rfl, rfl⟩
  | @boolean b => cases b <;> exact ⟨_, _, rfl, rfl⟩
  | number hd _ =>
    obtain ⟨c, s, rfl, hc⟩ := hd.head
    exact ⟨c, _, rfl, hc⟩
  | string _ => exact ⟨_, _, rfl, rfl⟩
  | list _ => exact ⟨_, _, rfl, rfl⟩
  | object _ => exact ⟨_, _, rfl, rfl⟩

lemma Opens.isSpace_eq_false {v : Value} {c : Char} (h : Opens v c) : isSpace c = false := by
  cases v with
  | null => cases h; rfl
  | boolean b => cases b <;> cases h <;> rfl
  | number _ =>
    rcases h with rfl | hc
    · rfl
    · exact isSpace_eq_false_of_isDigit hc
  | string _ => cases h; rfl
  | list _ => cases h; rfl
  | object _ => cases h; rfl

lemma Opens.ne_bracket {v : Value} {c : Char} (h : Opens v c) : c ≠ ']' := by
  rintro rfl
  cases v with
  | boolean b => cases b <;> cases h
  | number _ => rcases h with h | h <;> cases h
  | _ => cases h

lemma Spells.skipSpace_eq {t u rest : List Char} {v : Value} (hg : Gap t u) (h : Spells u v rest) :
    skipSpace t = u := by
  obtain ⟨c, s, rfl, hc⟩ := h.head
  rw [hg.skipSpace_eq, skipSpace_of_not_isSpace hc.isSpace_eq_false]

lemma Literal.Spells.length_lt {t cs rest : List Char} (h : Literal.Spells t cs rest) :
    rest.length < t.length := by
  induction h <;> simp only [List.length_cons] <;> omega

lemma Comma.length_le {first : Bool} {t u : List Char} (h : Comma first t u) : u.length ≤ t.length := by
  cases h with
  | first hg => exact hg.length_le
  | next hg hm =>
    have h₁ := hg.length_le
    have h₂ := hm.length_le
    rw [List.length_cons] at h₁
    omega

mutual

theorem Spells.length_lt {t rest : List Char} {v : Value} : Spells t v rest → rest.length < t.length
  | .null => by simp only [List.length_cons]; omega
  | @Spells.boolean b _ => by
    cases b <;> simp only [Value.wordOf, List.cons_append, List.nil_append, List.length_cons] <;> omega
  | .number hd _ => by
    obtain ⟨c, s, rfl, _⟩ := hd.head
    simp only [List.cons_append, List.length_cons, List.length_append]
    omega
  | .string h => by
    have := h.length_lt
    simp only [List.length_cons]
    omega
  | .list h => by
    have := h.length_lt
    simp only [List.length_cons]
    omega
  | .object h => by
    have := h.length_lt
    simp only [List.length_cons]
    omega

theorem Elements.length_lt {first : Bool} {t rest : List Char} {vs : List Value} :
    Elements first t vs rest → vs.length + rest.length < t.length
  | .close hg => by
    have := hg.length_le
    simp only [List.length_cons, List.length_nil] at *
    omega
  | .more hc hv hs => by
    have h₁ := hc.length_le
    have h₂ := hv.length_lt
    have h₃ := hs.length_lt
    simp only [List.length_cons]
    omega

theorem Members.length_lt {first : Bool} {t rest : List Char} {ms : List (String × Value)} :
    Members first t ms rest → ms.length + rest.length < t.length
  | .close hg => by
    have := hg.length_le
    simp only [List.length_cons, List.length_nil] at *
    omega
  | .more hc hk hv hs => by
    have h₁ := hc.length_le
    have h₂ := hk.length_lt
    have h₃ := hv.length_lt
    have h₄ := hs.length_lt
    simp only [List.length_cons] at *
    omega

theorem Assigned.length_lt {t rest : List Char} {v : Value} : Assigned t v rest → rest.length < t.length
  | .colon ht hm hv => by
    have h₁ := ht.length_le
    have h₂ := hm.length_le
    have h₃ := hv.length_lt
    simp only [List.length_cons] at h₁
    omega

end

end ContractAtlas.Json
