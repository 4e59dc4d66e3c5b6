import ContractAtlas.Proofs.Json.Decoding
import ContractAtlas.Proofs.Json.Written

/-! Readers of texts that are cut off. Cut off behind the value, a text gives the value; cut off before its
end, it gives the fault of a text that ends too early, and not that of a malformed or unsuitable one. -/

namespace ContractAtlas.Json

variable {α β σ : Type}

/-- What comes of a text that has lost `tail`. With it, the text is a value and `rest` behind it. -/
inductive Outcome (a : α) (rest tail : List Char) : Except Fault (α × List Char) → Prop
  | read {left} : rest = left ++ tail → Outcome a rest tail (.ok (a, left))
  | cut {e} : Outcome a rest tail (cut e)

def Takes (r : Reader α) (t : List Char) (a : α) (rest : List Char) : Prop :=
  ∀ p tail, t = p ++ tail → Outcome a rest tail (r.run p)

/-- `Takes` of a value whose text does not show its end, so that a beginning can pass for another value. -/
def Reaches (r : Reader α) (t : List Char) (a : α) (rest : List Char) : Prop :=
  ∀ p tail, t = p ++ tail → Outcome a rest tail (r.run p) ∨ ∃ b, r.run p = .ok (b, [])

section Composition

variable {r : Reader α} {f : α → Reader β} {t mid rest p tail : List Char} {a : α} {b : β}

lemma Outcome.run_bind (h : Outcome a mid tail (r.run p)) (f : α → Reader β) :
    (∃ left, mid = left ++ tail ∧ (r >>= f).run p = (f a).run left) ∨
      ∃ e, (r >>= f).run p = Json.cut e := by
  rw [Reader.run_bind]
  generalize r.run p = x at h ⊢
  cases h with
  | read hleft => exact .inl ⟨_, hleft, rfl⟩
  | cut => exact .inr ⟨_, rfl⟩

lemma Takes.reaches (h : Takes r t a rest) : Reaches r t a rest := fun p tail ht => .inl (h p tail ht)

lemma takes_pure (a : α) (t : List Char) : Takes (pure a) t a t := fun _ _ ht => .read ht

lemma Takes.bind (h : Takes r t a mid) (hf : Takes (f a) mid b rest) : Takes (r >>= f) t b rest := by
  intro p tail ht
  rcases (h p tail ht).run_bind f with ⟨left, hleft, hrun⟩ | ⟨e, hrun⟩
  · exact hrun ▸ hf left tail hleft
  · exact hrun ▸ .cut

lemma Takes.map (h : Takes r t a rest) (g : α → β) : Takes (r >>= fun a => pure (g a)) t (g a) rest :=
  h.bind (takes_pure (g a) rest)

lemma Takes.bind_reaches (h : Takes r t a mid) (hf : Reaches (f a) mid b rest) :
    Reaches (r >>= f) t b rest := by
  intro p tail ht
  rcases (h p tail ht).run_bind f with ⟨left, hleft, hrun⟩ | ⟨e, hrun⟩
  · exact hrun ▸ hf left tail hleft
  · exact .inl (hrun ▸ .cut)

lemma Reaches.map (h : Reaches r t a rest) (g : α → β) :
    Reaches (r >>= fun a => pure (g a)) t (g a) rest := by
  intro p tail ht
  rcases h p tail ht with hr | ⟨b, hb⟩
  · rcases hr.run_bind fun a => pure (g a) with ⟨left, hleft, hrun⟩ | ⟨e, hrun⟩
    · exact .inl (hrun ▸ .read hleft)
    · exact .inl (hrun ▸ .cut)
  · exact .inr ⟨g b, Reader.run_bind_of_ok hb _⟩

lemma Reaches.bind (h : Reaches r t a mid) (hf : Takes (f a) mid b rest)
    (hcut : ∀ a, ∃ e, (f a).run [] = cut e) : Takes (r >>= f) t b rest := by
  intro p tail ht
  rcases h p tail ht with hr | ⟨a, ha⟩
  · rcases hr.run_bind f with ⟨left, hleft, hrun⟩ | ⟨e, hrun⟩
    · exact hrun ▸ hf left tail hleft
    · exact hrun ▸ .cut
  · obtain ⟨e, he⟩ := hcut a
    exact ((Reader.run_bind_of_ok ha f).trans he) ▸ .cut

lemma Gap.skipSpace_prefix {s : List Char} {c : Char} (hg : Gap (p ++ tail) (c :: s))
    (hc : isSpace c = false) :
    skipSpace p = [] ∨ ∃ left, skipSpace p = c :: left ∧ s = left ++ tail := by
  induction p with
  | nil => exact .inl rfl
  | cons d p ih =>
    cases hg with
    | none => exact .inr ⟨p, skipSpace_of_not_isSpace hc, rfl⟩
    | space hd hg =>
      rw [skipSpace_cons, if_pos hd]
      exact ih hg

lemma Takes.of_head {r q : Reader α} {s : List Char} {c : Char} (hq : Takes q s a rest)
    (hg : Gap t (c :: s)) (hc : isSpace c = false)
    (hcut : ∀ p, skipSpace p = [] → ∃ e, r.run p = Json.cut e)
    (hr : ∀ p left, skipSpace p = c :: left → r.run p = q.run left) : Takes r t a rest := by
  rintro p tail rfl
  rcases hg.skipSpace_prefix hc with hp | ⟨left, hp, hs⟩
  · obtain ⟨e, he⟩ := hcut p hp
    exact he ▸ .cut
  · exact hr p left hp ▸ hq left tail hs

end Composition

section Literals

lemma Outcome.put {cs rest tail : List Char} {x : Except Fault (List Char × List Char)}
    (h : Outcome cs rest tail x) (c : Char) : Outcome (c :: cs) rest tail (Literal.put c x) := by
  cases h with
  | read hl => exact .read hl
  | cut => exact .cut

namespace Literal

lemma utf8Size_of_hexValue? {c : Char} {n : Nat} (h : hexValue? c = some n) : c.utf8Size = 1 := by
  have hsize {d : Char} (hd : c ≤ d) (hlt : d.val ≤ 127) : c.utf8Size = 1 :=
    Char.utf8Size_eq_one_iff.mpr (UInt32.le_trans hd hlt)
  rw [hexValue?] at h
  split at h
  · rename_i hc
    exact hsize hc.2 (by decide)
  · split at h
    · rename_i hc
      exact hsize hc.2 (by decide)
    · split at h
      · rename_i hc
        exact hsize hc.2 (by decide)
      · cases h

variable {s p tail : List Char}

lemma quad_cut {a b c d : Char} {n : Nat} (h : quad? a b c d = some n)
    (hp : a :: b :: c :: d :: s = p ++ tail) :
    p.length < 4 ∧ shortQuad p = .endOfText .inString ∨
      ∃ left, p = a :: b :: c :: d :: left ∧ s = left ++ tail := by
  simp only [quad?, Option.bind_eq_bind, Option.bind_eq_some_iff] at h
  obtain ⟨_, ha, _, hb, _, hc, _, hd, -⟩ := h
  have ha := utf8Size_of_hexValue? ha
  have hb := utf8Size_of_hexValue? hb
  have hc := utf8Size_of_hexValue? hc
  rcases p with _ | ⟨_, _ | ⟨_, _ | ⟨_, _ | ⟨_, left⟩⟩⟩⟩ <;> cases hp
  · exact .inl ⟨by decide, rfl⟩
  · exact .inl ⟨by simp, by simp [shortQuad, Text.utf8, ha]⟩
  · exact .inl ⟨by simp, by simp [shortQuad, Text.utf8, ha, hb]⟩
  · exact .inl ⟨by simp, by simp [shortQuad, Text.utf8, ha, hb, hc]⟩
  · exact .inr ⟨left, rfl, rfl⟩

lemma escape_cut {e : Char} (hp : '\\' :: e :: s = p ++ tail) :
    p = [] ∨ p = ['\\'] ∨ ∃ left, p = '\\' :: e :: left ∧ s = left ++ tail := by
  rcases p with _ | ⟨_, _ | ⟨_, left⟩⟩ <;> cases hp
  · exact .inl rfl
  · exact .inr (.inl rfl)
  · exact .inr (.inr ⟨left, rfl, rfl⟩)

lemma body_of_short (h : p.length < 4) : body ('\\' :: 'u' :: p) = .error (shortQuad p) := by
  rcases p with _ | ⟨_, _ | ⟨_, _ | ⟨_, _ | ⟨_, _⟩⟩⟩⟩
  iterate 4 rfl
  simp only [List.length_cons] at h
  omega

lemma body_of_leading {a b c d : Char} {n : Nat} (hn : quad? a b c d = some n) (hl : isLeading n = true)
    (hs : s.length < 6) : body ('\\' :: 'u' :: a :: b :: c :: d :: s) = .error (unpaired s) := by
  rw [body, hn]
  simp only [isTrailing_eq_false_of_isLeading hl, hl, Bool.false_eq_true, if_false, if_true]
  split
  · simp only [List.length_cons] at hs
    omega
  · rfl

lemma Spells.body_prefix {t cs rest : List Char} (h : Spells t cs rest) (ht : t = p ++ tail) :
    Outcome cs rest tail (body p) := by
  -- the cut is before, inside or behind the first character, however many make up its escape
  induction h generalizing p with
  | close =>
    rcases p with _ | ⟨_, p⟩ <;> cases ht
    · exact .cut
    · exact .read rfl
  | plain hq hb hc _ ih =>
    rcases p with _ | ⟨_, p⟩ <;> cases ht
    · exact .cut
    · rw [body_plain hq hb hc]
      exact (ih rfl).put _
  | short he _ ih =>
    rcases escape_cut ht with rfl | rfl | ⟨left, rfl, hleft⟩
    · exact .cut
    · exact .cut
    · rw [body_short he]
      exact (ih hleft).put _
  | code hn ht' hl _ ih =>
    rcases escape_cut ht with rfl | rfl | ⟨digits, rfl, hdigits⟩
    · exact .cut
    · exact .cut
    · rcases quad_cut hn hdigits with ⟨hp, he⟩ | ⟨left, rfl, hleft⟩
      · rw [body_of_short hp, he]
        exact .cut
      · rw [body_code hn ht' hl]
        exact (ih hleft).put _
  | pair hn hl hm ht' _ ih =>
    rcases escape_cut ht with rfl | rfl | ⟨digits, rfl, hdigits⟩
    · exact .cut
    · exact .cut
    · rcases quad_cut hn hdigits with ⟨hp, he⟩ | ⟨second, rfl, hsecond⟩
      · rw [body_of_short hp, he]
        exact .cut
      · rcases escape_cut hsecond with rfl | rfl | ⟨digits, rfl, hquad⟩
        · rw [body_of_leading hn hl (by decide)]
          exact .cut
        · rw [body_of_leading hn hl (by decide)]
          exact .cut
        · rcases quad_cut hm hquad with ⟨hp, he⟩ | ⟨left, rfl, hleft⟩
          · rw [body_of_leading hn hl (by simp only [List.length_cons]; omega), unpaired, he]
            exact .cut
          · rw [body_pair hn hl hm ht']
            exact (ih hleft).put _

lemma takes_read {s : String} {t rest : List Char} (h : Spells t s.toList rest) : Takes read t s rest := by
  intro p tail ht
  have hb := h.body_prefix ht
  simp only [read]
  generalize body p = x at hb ⊢
  cases hb with
  | read hl =>
    rw [Except.map, String.ofList_toList]
    exact .read hl
  | cut => exact .cut

end Literal

end Literals

lemma takes_word (w rest : List Char) : Takes (word w) (w ++ rest) () rest := by
  induction w with
  | nil => exact takes_pure () rest
  | cons c w ih =>
    rintro (_ | ⟨d, p⟩) tail ht
    · exact .cut
    · simp only [List.cons_append, List.cons.injEq] at ht
      obtain ⟨rfl, ht⟩ := ht
      simpa only [word, if_true] using ih p tail ht

section Numbers

open Number

lemma Number.Integral.of_count? {digits : List Char} {n : UInt64} (h : Lexeme digits)
    (hn : count? digits = some n) : Integral digits := by
  cases h with
  | negative _ =>
    rw [count?_of_not_isDigit (.head _) rfl] at hn
    cases hn
  | positive hu =>
    obtain @⟨i, f, x, hi, hf, hx⟩ := hu
    by_cases hne : f ++ x = []
    · rwa [hne, List.append_nil]
    · obtain ⟨⟨c, hm, hc⟩, -⟩ := exists_countless_of_ne_nil hf hx hne false 0 []
      rw [count?_of_not_isDigit (List.mem_append_right i hm) hc] at hn
      cases hn

lemma Number.Integral.of_prefix {c : Char} {ds cs : List Char} (h : Integral (c :: (ds ++ cs))) :
    Integral (c :: ds) := by
  generalize hs : c :: (ds ++ cs) = s at h
  cases h with
  | zero =>
    simp only [List.cons.injEq, List.append_eq_nil_iff] at hs
    obtain ⟨rfl, rfl, -⟩ := hs
    exact .zero
  | digits hz hc hd =>
    cases hs
    exact .digits hz hc fun d hm => hd d (List.mem_append_left _ hm)

lemma Number.count?_of_prefix {c : Char} {ds cs : List Char} {n : UInt64}
    (h : count? (c :: (ds ++ cs)) = some n) : ∃ m, count? (c :: ds) = some m := by
  rw [count?, Option.ite_none_right_eq_some] at h
  obtain ⟨⟨hall, hlt⟩, -⟩ := h
  have hlt' : Nat.ofDigitChars 10 (c :: ds) 0 < UInt64.size := by
    rw [← List.cons_append, Nat.ofDigitChars_append] at hlt
    exact Nat.lt_of_le_of_lt (Decimal.le_ofDigitChars cs _) hlt
  refine ⟨_, if_pos ⟨?_, hlt'⟩⟩
  rw [← List.cons_append, List.all_append, Bool.and_eq_true] at hall
  exact hall.1

lemma Number.Ends.of_prefix {s tail : List Char} (h : Ends (s ++ tail)) : Ends s := by
  cases s with
  | nil => exact ends_nil
  | cons c s => exact ends_cons s (h c rfl)

lemma run_number64 {digits rest : List Char} {n : UInt64} (hd : Lexeme digits) (hr : Ends rest)
    (hn : count? digits = some n) : number64.run (digits ++ rest) = .ok (n, rest) := by
  have h := decodes_number64 .none (.number hd hr)
  rw [Value.count?, hn] at h
  exact toOption_eq_some_iff.mp h

/-- Cut off among its digits, a number is a smaller one. -/
lemma reaches_number64 {t u rest : List Char} {v : Value} {n : UInt64} (hg : Gap t u)
    (hs : Spells u v rest) (hn : v.count? = some n) : Reaches number64 t n rest := by
  cases hs with
  | @number digits _ hd hr =>
    have hi := Integral.of_count? hd hn
    obtain ⟨c, ds, rfl, hc⟩ := hd.head
    have hspace : isSpace c = false := Opens.isSpace_eq_false (v := .number (c :: ds)) hc
    rintro p tail rfl
    rcases hg.skipSpace_prefix hspace with hp | ⟨left, hp, hl⟩
    · exact .inl (by simpa only [number64, hp] using .cut)
    · have hrun : number64.run p = number64.run (c :: left) := by
        simp only [number64, hp, skipSpace_of_not_isSpace hspace]
      rw [hrun]
      rcases List.append_eq_append_iff.mp hl with ⟨s, rfl, rfl⟩ | ⟨cs, rfl, -⟩
      · exact .inl (run_number64 hd hr.of_prefix hn ▸ .read rfl)
      · obtain ⟨m, hm⟩ := count?_of_prefix hn
        have hrun := run_number64 hi.of_prefix.lexeme ends_nil hm
        rw [List.append_nil] at hrun
        exact .inr ⟨m, hrun⟩
  | _ => cases hn

end Numbers

end ContractAtlas.Json
