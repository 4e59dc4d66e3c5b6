import ContractAtlas.Proofs.Json.Numbers
import ContractAtlas.Proofs.Json.Skipping

/-! Readers as functions of values. A reader decodes values if on every text of a value it answers what the
decoder makes of the value; each way to build a reader is matched by one to build its decoder. -/

namespace ContractAtlas.Json

variable {α β : Type}

def Decodes (r : Reader α) (decode : Value → Option α) : Prop :=
  ∀ ⦃t u rest : List Char⦄ ⦃v : Value⦄, Gap t u → Spells u v rest → r.run? t = (decode v).map (·, rest)

namespace Value

def string? : Value → Option String
  | .string s => some s
  | _ => none

def count? : Value → Option UInt64
  | .number digits => Number.count? digits
  | _ => none

def optional? (decode : Value → Option α) : Value → Option (Option α)
  | .null => some none
  | v => (decode v).map some

def list? (decode : Value → Option α) : Value → Option (List α)
  | .list vs => vs.mapM decode
  | _ => none

end Value

lemma Opens.eq_null {v : Value} (h : Opens v 'n') : v = .null := by
  cases v with
  | null => rfl
  | boolean b => cases b <;> cases h
  | number _ => rcases h with h | h <;> cases h
  | _ => cases h

lemma Opens.eq_number {v : Value} {c : Char} (h : Opens v c) (hc : c = '-' ∨ c.isDigit = true) :
    ∃ digits, v = .number digits := by
  cases v with
  | number digits => exact ⟨digits, rfl⟩
  | boolean b => cases b <;> cases h <;> rcases hc with hc | hc <;> cases hc
  | _ => cases h; rcases hc with hc | hc <;> cases hc

lemma Opens.eq_string {v : Value} (h : Opens v '"') : ∃ s, v = .string s := by
  cases v with
  | boolean b => cases b <;> cases h
  | number _ => rcases h with h | h <;> cases h
  | string s => exact ⟨s, rfl⟩
  | _ => cases h

lemma Opens.eq_list {v : Value} (h : Opens v '[') : ∃ vs, v = .list vs := by
  cases v with
  | boolean b => cases b <;> cases h
  | number _ => rcases h with h | h <;> cases h
  | list vs => exact ⟨vs, rfl⟩
  | _ => cases h

lemma Opens.eq_object {v : Value} (h : Opens v '\x7b') : ∃ ms, v = .object ms := by
  cases v with
  | boolean b => cases b <;> cases h
  | number _ => rcases h with h | h <;> cases h
  | object ms => exact ⟨ms, rfl⟩
  | _ => cases h

lemma Spells.of_string {u rest : List Char} {s : String} (h : Spells u (.string s) rest) :
    ∃ t, u = '"' :: t ∧ Literal.Spells t s.toList rest := by
  cases h with
  | string h => exact ⟨_, rfl, h⟩

lemma Spells.of_list {u rest : List Char} {vs : List Value} (h : Spells u (.list vs) rest) :
    ∃ t, u = '[' :: t ∧ Elements true t vs rest := by
  cases h with
  | list h => exact ⟨_, rfl, h⟩

lemma Spells.of_object {u rest : List Char} {ms : List (String × Value)} (h : Spells u (.object ms) rest) :
    ∃ t, u = '\x7b' :: t ∧ Members true t ms rest := by
  cases h with
  | object h => exact ⟨_, rfl, h⟩

lemma run?_wrongKind (expected : String) (s : List Char) :
    (wrongKind expected : Reader α).run? s = none := by
  rw [wrongKind, Reader.run?_bind]
  cases found.run? s <;> rfl

lemma decodes_text : Decodes text Value.string? := by
  intro t u rest v hg hs
  have hk := hs.skipSpace_eq hg
  obtain ⟨c, s, rfl, ho⟩ := hs.head
  by_cases hc : c = '"'
  · obtain ⟨a, rfl⟩ := (hc ▸ ho).eq_string
    obtain ⟨_, ⟨⟩, h⟩ := hs.of_string
    simp only [Reader.run?, text, hk, Literal.run_read h]
    rfl
  · have hw : text.run? t = none := by
      simp only [Reader.run?, text, hk]
      split
      · rfl
      · rename_i h
        exact absurd (List.cons.inj h).1 hc
      · exact run?_wrongKind _ _
    cases v with
    | string _ => exact absurd ho hc
    | _ => exact hw

lemma decodes_number64 : Decodes number64 Value.count? := by
  intro t u rest v hg hs
  have hk := hs.skipSpace_eq hg
  obtain ⟨c, s, hu, ho⟩ := hs.head
  by_cases hc : c = '-' ∨ c.isDigit = true
  · obtain ⟨digits, rfl⟩ := ho.eq_number hc
    cases hs with
    | number hd hr =>
      refine Eq.trans ?_ (hd.run?_read hr)
      simp only [Reader.run?, number64, hk, hu]
      rw [if_pos (by simpa using hc)]
  · have hw : number64.run? t = none := by
      simp only [Reader.run?, number64, hk, hu]
      rw [if_neg (by simpa using hc)]
      exact run?_wrongKind _ _
    cases v with
    | number _ => exact absurd ho hc
    | _ => exact hw

lemma decodes_optional {r : Reader α} {decode : Value → Option α} (h : Decodes r decode) :
    Decodes (optional r) (Value.optional? decode) := by
  intro t u rest v hg hs
  have hk := hs.skipSpace_eq hg
  obtain ⟨c, s, hu, ho⟩ := hs.head
  by_cases hc : c = 'n'
  · obtain rfl := (hc ▸ ho).eq_null
    cases hs with
    | null =>
      simp only [Reader.run?, optional, hk]
      exact congrArg _ (run_constant_append ['u', 'l', 'l'] none rest)
  · have hw : (optional r).run? t = ((decode v).map some).map (·, rest) := by
      have hr := h .none hs
      simp only [Reader.run?, optional, hk]
      split
      · exact absurd (List.cons.inj hu).1.symm hc
      · change (some <$> r).run? u = _
        rw [Reader.run?_map, hr]
        cases decode v <;> rfl
    cases v with
    | null => exact absurd ho hc
    | _ => exact hw

lemma run_nextElement_close {t rest : List Char} (hg : Gap t (']' :: rest)) (first : Bool) :
    (nextElement first).run t = .ok (false, ']' :: rest) := by
  simp only [nextElement, hg.skipSpace_eq, skipSpace_of_not_isSpace (c := ']') rfl]

lemma run_nextElement_more {first : Bool} {t u rest : List Char} {v : Value} (hc : Comma first t u)
    (hs : Spells u v rest) : (nextElement first).run t = .ok (true, u) := by
  obtain ⟨c, s, rfl, ho⟩ := hs.head
  have hne := ho.ne_bracket
  cases hc with
  | first hg => simp [nextElement, hs.skipSpace_eq hg]
  | next hg hm =>
    simp [nextElement, hg.skipSpace_eq, skipSpace_of_not_isSpace (c := ',') rfl, hs.skipSpace_eq hm, hne]

lemma run_closeList {t rest : List Char} (hg : Gap t (']' :: rest)) : closeList.run t = .ok ((), rest) := by
  simp only [closeList, hg.skipSpace_eq, skipSpace_of_not_isSpace (c := ']') rfl]

lemma run?_elements {r : Reader α} {decode : Value → Option α} (h : Decodes r decode) {first : Bool}
    {t rest : List Char} {vs : List Value} (hs : Elements first t vs rest) {fuel : Nat}
    (hf : vs.length < fuel) : (elements r fuel first).run? t = (vs.mapM decode).map (·, ']' :: rest) := by
  induction vs generalizing first t fuel with
  | nil =>
    obtain ⟨fuel, rfl⟩ := Nat.exists_eq_succ_of_ne_zero (Nat.ne_zero_of_lt hf)
    cases hs with
    | close hg =>
      rw [elements, Reader.run?_bind, Reader.run?_of_ok (run_nextElement_close hg first)]
      rfl
  | cons v vs ih =>
    obtain ⟨fuel, rfl⟩ := Nat.exists_eq_succ_of_ne_zero (Nat.ne_zero_of_lt hf)
    cases hs with
    | more hc hv hs =>
      rw [elements, Reader.run?_bind, Reader.run?_of_ok (run_nextElement_more hc hv), List.mapM_cons]
      have hvs := ih hs (Nat.lt_of_succ_lt_succ hf)
      simp only [Option.bind_some, Reader.run?_bind, h .none hv]
      cases decode v with
      | none => rfl
      | some a => 
        simp only [Option.map_some, Option.bind_some, hvs]
        cases vs.mapM decode <;> rfl

lemma decodes_list {r : Reader α} {decode : Value → Option α} (h : Decodes r decode) :
    Decodes (list r) (Value.list? decode) := by
  intro t u rest v hg hs
  have hk := hs.skipSpace_eq hg
  obtain ⟨c, s, hu, ho⟩ := hs.head
  by_cases hc : c = '['
  · obtain ⟨vs, rfl⟩ := (hc ▸ ho).eq_list
    obtain ⟨s, rfl, hvs⟩ := hs.of_list
    have hl := hvs.length_lt
    have he := run?_elements h hvs (show vs.length < s.length + 1 by omega)
    have hr : (list r).run? t = (listBody r (s.length + 1)).run? s := by
      simp only [Reader.run?, list, hk]
    rw [hr, listBody, Reader.run?_bind, he, Value.list?]
    cases vs.mapM decode with
    | none => rfl
    | some as =>
      have hclose := Reader.run?_of_ok (run_closeList (t := ']' :: rest) .none)
      simp only [Option.map_some, Option.bind_some, Reader.run?_bind, hclose, Reader.run?_pure]
  · have hw : (list r).run? t = none := by
      simp only [Reader.run?, list, hk]
      split
      · rfl
      · exact absurd (List.cons.inj hu).1.symm hc
      · exact run?_wrongKind _ _
    cases v with
    | list _ => exact absurd ho hc
    | _ => exact hw

lemma Decodes.bind {r : Reader α} {decode : Value → Option α} (h : Decodes r decode) {f : α → Reader β}
    {g : α → Option β} (hf : ∀ a s, (f a).run? s = (g a).map (·, s)) :
    Decodes (r >>= f) fun v => (decode v).bind g := by
  intro t u rest v hg hs
  rw [Reader.run?_bind, h hg hs]
  dsimp only
  cases decode v with
  | none => rfl
  | some a => exact hf a rest

lemma Decodes.toOption_whole {r : Reader α} {decode : Value → Option α} (h : Decodes r decode)
    {t : List Char} {v : Value} (ht : IsText t v) : (whole r t).toOption = decode v := by
  obtain ⟨u, rest, hg, hs, hr⟩ := ht
  have hrun := h hg hs
  have hend : (skipSpace rest).isEmpty = true := by rw [hr.skipSpace_eq]; rfl
  rw [Reader.run?] at hrun
  rw [whole]
  cases hd : decode v with
  | none =>
    rw [hd] at hrun
    cases hr : r.run t with
    | error e => rfl
    | ok p =>
      rw [hr] at hrun
      cases hrun
  | some a =>
    rw [hd] at hrun
    cases hr : r.run t with
    | error e =>
      rw [hr] at hrun
      cases hrun
    | ok p =>
      rw [hr] at hrun
      cases hrun
      change (if (skipSpace rest).isEmpty then Except.ok a else _).toOption = _
      rw [if_pos hend]
      rfl

end ContractAtlas.Json
