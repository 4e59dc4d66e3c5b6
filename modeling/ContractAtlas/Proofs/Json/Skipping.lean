import ContractAtlas.Proofs.Json.Lexemes

/-! `skipValue` passes over every value that a text spells. The open scopes stand in for the recursion of
the grammar, so that the invariant speaks of what is left to do behind a value. -/

namespace ContractAtlas.Json

def resume (fuel : Nat) : List Scope → Reader Unit
  | [] => pure ()
  | .list :: outer => skipWithin fuel (.list :: outer)
  | .object :: outer => do
    skipKey
    skipWithin fuel (.object :: outer)

lemma skipWithin_succ (fuel : Nat) (scopes : List Scope) :
    skipWithin (fuel + 1) scopes = skipHead >>= fun opened =>
      (match opened with
        | some scope => settle false (scope :: scopes)
        | none => settle true scopes) >>= resume fuel := by
  have hr : ∀ inner, resume fuel inner = match inner with
      | [] => pure ()
      | .list :: _ => skipWithin fuel inner
      | .object :: _ => skipKey >>= fun _ => skipWithin fuel inner := by
    rintro (_ | ⟨_ | _, _⟩) <;> rfl
  rw [skipWithin, funext hr]
  congr
  funext opened
  cases opened <;> rfl

lemma run_skipWithin_of_value {t rest : List Char} (h : skipHead.run t = .ok (none, rest)) (fuel : Nat)
    (scopes : List Scope) :
    (skipWithin (fuel + 1) scopes).run t = (settle true scopes >>= resume fuel).run rest := by
  rw [skipWithin_succ, Reader.run_bind_of_ok h]

lemma run_skipWithin_of_scope {t rest : List Char} {scope : Scope}
    (h : skipHead.run t = .ok (some scope, rest)) (fuel : Nat) (scopes : List Scope) :
    (skipWithin (fuel + 1) scopes).run t = (settle false (scope :: scopes) >>= resume fuel).run rest := by
  rw [skipWithin_succ, Reader.run_bind_of_ok h]

lemma run_skipHead {c : Char} {t s : List Char} (h : skipSpace t = c :: s) :
    skipHead.run t =
      if c = 'n' then (constant ['u', 'l', 'l'] none).run s
      else if c = 't' then (constant ['r', 'u', 'e'] none).run s
      else if c = 'f' then (constant ['a', 'l', 's', 'e'] none).run s
      else if c = '-' || c.isDigit then (Number.skip >>= fun _ => pure none).run (c :: s)
      else if c = '"' then (Literal.skip >>= fun _ => pure none).run s
      else if c = '[' then .ok (some .list, s)
      else if c = '\x7b' then .ok (some .object, s)
      else malformed .expectedValue := by
  simp only [skipHead, h]

lemma run_constant_append {α : Type} (w : List Char) (a : α) (rest : List Char) :
    (constant w a).run (w ++ rest) = .ok (a, rest) := by
  rw [constant, Reader.run_bind_of_ok (run_word_append w rest), Reader.run_pure]

lemma run_skipHead_null {t rest : List Char} (hg : Gap t ('n' :: 'u' :: 'l' :: 'l' :: rest)) :
    skipHead.run t = .ok (none, rest) := by
  rw [run_skipHead (hg.skipSpace_eq.trans (skipSpace_of_not_isSpace rfl))]
  exact run_constant_append ['u', 'l', 'l'] none rest

lemma run_skipHead_boolean {b : Bool} {t rest : List Char} (hg : Gap t (Value.wordOf b ++ rest)) :
    skipHead.run t = .ok (none, rest) := by
  cases b
  · rw [run_skipHead (hg.skipSpace_eq.trans (skipSpace_of_not_isSpace rfl))]
    exact run_constant_append ['a', 'l', 's', 'e'] none rest
  · rw [run_skipHead (hg.skipSpace_eq.trans (skipSpace_of_not_isSpace rfl))]
    exact run_constant_append ['r', 'u', 'e'] none rest

lemma run_skipHead_list {t s : List Char} (hg : Gap t ('[' :: s)) : skipHead.run t = .ok (some .list, s) :=
  run_skipHead (hg.skipSpace_eq.trans (skipSpace_of_not_isSpace rfl))

lemma run_skipHead_object {t s : List Char} (hg : Gap t ('\x7b' :: s)) :
    skipHead.run t = .ok (some .object, s) :=
  run_skipHead (hg.skipSpace_eq.trans (skipSpace_of_not_isSpace rfl))

lemma run_skipHead_string {t s cs rest : List Char} (hg : Gap t ('"' :: s)) (h : Literal.Spells s cs rest) :
    skipHead.run t = .ok (none, rest) := by
  rw [run_skipHead (hg.skipSpace_eq.trans (skipSpace_of_not_isSpace rfl))]
  exact Reader.run_bind_of_ok (Literal.run_skip h) _

lemma run_skipHead_number {t digits rest : List Char} (hg : Gap t (digits ++ rest))
    (h : Number.Lexeme digits) (hr : Number.Ends rest) : skipHead.run t = .ok (none, rest) := by
  have hs := (Spells.number h hr).skipSpace_eq hg
  have hk := Number.run_skip h hr
  obtain ⟨c, s, rfl, hc⟩ := h.head
  rw [run_skipHead hs, if_neg, if_neg, if_neg, if_pos]
  · exact Reader.run_bind_of_ok hk _
  · simpa using hc
  all_goals
    rintro rfl
    rcases hc with hc | hc <;> cases hc

lemma run_settle {scope : Scope} {t s : List Char} {c : Char} (h : skipSpace t = c :: s) (separated : Bool)
    (outer : List Scope) :
    (settle separated (scope :: outer)).run t =
      if separated && c = ',' then .ok (scope :: outer, s)
      else if c = scope.closing then (settle true outer).run s
      else if separated then malformed scope.unclosed
      else .ok (scope :: outer, c :: s) := by
  simp only [settle, h]

lemma run_settle_close {scope : Scope} {t rest : List Char} (hg : Gap t (scope.closing :: rest))
    (separated : Bool) (outer : List Scope) :
    (settle separated (scope :: outer)).run t = (settle true outer).run rest := by
  have hs : skipSpace t = scope.closing :: rest :=
    hg.skipSpace_eq.trans (skipSpace_of_not_isSpace (by cases scope <;> rfl))
  rw [run_settle hs, if_neg, if_pos rfl]
  cases scope <;> simp [Scope.closing]

lemma run_settle_comma (scope : Scope) {first : Bool} {t s : List Char} {c : Char}
    (h : Comma first t (c :: s)) (hs : isSpace c = false) (hc : c ≠ scope.closing) (outer : List Scope) :
    ∃ m, Gap m (c :: s) ∧ (settle (!first) (scope :: outer)).run t = .ok (scope :: outer, m) := by
  cases h with
  | first hg =>
    refine ⟨c :: s, .none, ?_⟩
    rw [run_settle (hg.skipSpace_eq.trans (skipSpace_of_not_isSpace hs)), if_neg (by simp), if_neg hc]
    rfl
  | next hg hm =>
    refine ⟨_, hm, ?_⟩
    exact run_settle (hg.skipSpace_eq.trans (skipSpace_of_not_isSpace rfl)) true outer

lemma run_colon {t rest : List Char} (hg : Gap t (':' :: rest)) : colon.run t = .ok ((), rest) := by
  simp only [colon, hg.skipSpace_eq, skipSpace_of_not_isSpace (c := ':') rfl]

lemma run_skipKey {t u m rest cs : List Char} (hg : Gap t ('"' :: u)) (hk : Literal.Spells u cs m)
    (hm : Gap m (':' :: rest)) : skipKey.run t = .ok ((), rest) := by
  simp only [skipKey, hg.skipSpace_eq, skipSpace_of_not_isSpace (c := '"') rfl,
    Reader.run_bind_of_ok (Literal.run_skip hk), run_colon hm]

def Passes (u rest : List Char) : Prop :=
  ∃ k, k + rest.length ≤ u.length ∧ ∀ fuel scopes t, Gap t u →
    (skipWithin (fuel + k) scopes).run t = (settle true scopes >>= resume fuel).run rest

def Settles (scope : Scope) (first : Bool) (t rest : List Char) : Prop :=
  ∃ k, k + rest.length ≤ t.length ∧ ∀ fuel outer,
    (settle (!first) (scope :: outer) >>= resume (fuel + k)).run t =
      (settle true outer >>= resume fuel).run rest

lemma passes_of_atom {u rest : List Char} {v : Value} (h : Spells u v rest)
    (hr : ∀ {t}, Gap t u → skipHead.run t = .ok (none, rest)) : Passes u rest := by
  have hl := h.length_lt
  exact ⟨1, by omega, fun fuel scopes t hg => run_skipWithin_of_value (hr hg) fuel scopes⟩

lemma Settles.passes {scope : Scope} {u s rest : List Char} (h : Settles scope true s rest)
    (hl : s.length < u.length) (hr : ∀ {t}, Gap t u → skipHead.run t = .ok (some scope, s)) : Passes u rest := by
  obtain ⟨k, hk, hrun⟩ := h
  refine ⟨k + 1, by omega, fun fuel scopes t hg => ?_⟩
  exact (run_skipWithin_of_scope (hr hg) (fuel + k) scopes).trans (hrun fuel scopes)

lemma settles_close {scope : Scope} {t rest : List Char} (hg : Gap t (scope.closing :: rest)) (first : Bool) :
    Settles scope first t rest := by
  have hl := hg.length_le
  rw [List.length_cons] at hl
  refine ⟨0, by omega, fun fuel outer => ?_⟩
  rw [Reader.run_bind, Reader.run_bind, run_settle_close hg]
  rfl

mutual

theorem Spells.passes {u rest : List Char} {v : Value} : Spells u v rest → Passes u rest
  | .null => passes_of_atom .null run_skipHead_null
  | .boolean => passes_of_atom .boolean run_skipHead_boolean
  | .number hd hr => passes_of_atom (.number hd hr) fun hg => run_skipHead_number hg hd hr
  | .string h => passes_of_atom (.string h) fun hg => run_skipHead_string hg h
  | .list h => h.settles.passes (Nat.lt_succ_self _) run_skipHead_list
  | .object h => h.settles.passes (Nat.lt_succ_self _) run_skipHead_object

theorem Elements.settles {first : Bool} {t rest : List Char} {vs : List Value} :
    Elements first t vs rest → Settles .list first t rest
  | .close hg => settles_close hg first
  | .more hc hv hs => by
    have hl := hc.length_le
    obtain ⟨i, hi, hrun⟩ := hv.passes
    obtain ⟨j, hj, hrest⟩ := hs.settles
    obtain ⟨c, s, rfl, ho⟩ := hv.head
    refine ⟨j + i, by omega, fun fuel outer => ?_⟩
    obtain ⟨m, hm, hsettle⟩ := run_settle_comma .list hc ho.isSpace_eq_false ho.ne_bracket outer
    rw [Reader.run_bind_of_ok hsettle, resume, ← Nat.add_assoc, hrun _ _ _ hm]
    exact hrest fuel outer

theorem Members.settles {first : Bool} {t rest : List Char} {ms : List (String × Value)} :
    Members first t ms rest → Settles .object first t rest
  | .close hg => settles_close hg first
  | .more hc hk (.colon ht hm hv) hs => by
    have h₁ := hc.length_le
    have h₂ := hk.length_lt
    have h₃ := ht.length_le
    have h₄ := hm.length_le
    obtain ⟨i, hi, hrun⟩ := hv.passes
    obtain ⟨j, hj, hrest⟩ := hs.settles
    refine ⟨j + i, by simp only [List.length_cons] at *; omega, fun fuel outer => ?_⟩
    obtain ⟨m, hg, hsettle⟩ := run_settle_comma .object hc rfl (by decide) outer
    rw [Reader.run_bind_of_ok hsettle, resume, Reader.run_bind_of_ok (run_skipKey hg hk ht),
      ← Nat.add_assoc, hrun _ _ _ hm]
    exact hrest fuel outer

end

lemma Spells.run_skipValue {t u rest : List Char} {v : Value} (hg : Gap t u) (h : Spells u v rest) :
    skipValue.run t = .ok ((), rest) := by
  obtain ⟨k, hk, hrun⟩ := h.passes
  have hl := hg.length_le
  have hf : t.length + 1 = (t.length + 1 - k) + k := by omega
  calc skipValue.run t = (skipWithin (t.length + 1 - k + k) []).run t := by rw [← hf]; rfl
    _ = (settle true [] >>= resume (t.length + 1 - k)).run rest := hrun _ _ _ hg
    _ = .ok ((), rest) := rfl

end ContractAtlas.Json
