import ContractAtlas.Proofs.Json.Decoding

namespace ContractAtlas.Json

variable {α β σ : Type}

def DecodesList (first : Bool) (r : Reader α) (decode : List Value → Option α) : Prop :=
  ∀ ⦃t rest : List Char⦄ ⦃vs : List Value⦄, Elements first t vs rest → r.run? t = (decode vs).map (·, rest)

def DecodesObject (r : Reader α) (decode : List (String × Value) → Option α) : Prop :=
  ∀ ⦃t rest : List Char⦄ ⦃ms : List (String × Value)⦄,
    Members true t ms rest → r.run? t = (decode ms).map (·, rest)

def DecodesMember (r : Reader α) (decode : Value → Option α) : Prop :=
  ∀ ⦃t rest : List Char⦄ ⦃v : Value⦄, Assigned t v rest → r.run? t = (decode v).map (·, rest)

namespace Value

def record? (inOrder : List Value → Option α) (byName : List (String × Value) → Option α) :
    Value → Option α
  | .list vs => inOrder vs
  | .object ms => byName ms
  | _ => none

def required? (decode : Value → Option α) (next : α → List Value → Option β) : List Value → Option β
  | [] => none
  | v :: vs => (decode v).bind (next · vs)

def defaulted? (default : α) (decode : Value → Option α) (next : α → List Value → Option β) :
    List Value → Option β
  | [] => next default []
  | v :: vs => (decode v).bind (next · vs)

def ended? (a : α) : List Value → Option α
  | [] => some a
  | _ :: _ => none

def once? (decode : Value → Option α) : Option α → Value → Option (Option α)
  | some _, _ => none
  | none, v => (decode v).map some

def dictionary? (decode : Value → Option α) (add : σ → String → α → σ) (start : σ) : Value → Option σ
  | .object ms => ms.foldlM (fun acc m => (decode m.2).map (add acc m.1)) start
  | _ => none

end Value

lemma run?_closeList_more {first : Bool} {t u rest : List Char} {v : Value} (hc : Comma first t u)
    (hs : Spells u v rest) : closeList.run? t = none := by
  obtain ⟨c, s, rfl, ho⟩ := hs.head
  have hne := ho.ne_bracket
  cases hc with
  | first hg =>
    simp only [Reader.run?, closeList, hs.skipSpace_eq hg]
    split
    · rfl
    · rename_i h
      exact absurd (List.cons.inj h).1 hne
    · split <;> rfl
    · rfl
  | next hg hm =>
    simp only [Reader.run?, closeList, hg.skipSpace_eq, skipSpace_of_not_isSpace (c := ',') rfl]
    split <;> rfl

lemma decodesList_close {first : Bool} (a : α) :
    DecodesList first (closeList >>= fun _ => pure a) (Value.ended? a) := by
  intro t rest vs h
  rw [Reader.run?_bind]
  cases h with
  | close hg => rw [Reader.run?_of_ok (run_closeList hg)]; rfl
  | more hc hs _ => rw [run?_closeList_more hc hs]; rfl

lemma decodesList_required {r : Reader α} {decode : Value → Option α} (h : Decodes r decode)
    {f : α → Reader β} {g : α → List Value → Option β} (hf : ∀ a, DecodesList false (f a) (g a))
    (expected : String) (position : Nat) :
    DecodesList (position == 0) (required expected position r >>= f) (Value.required? decode g) := by
  intro t rest vs hs
  rw [Reader.run?_bind, required, Reader.run?_bind]
  cases hs with
  | close hg => rw [Reader.run?_of_ok (run_nextElement_close hg _)]; rfl
  | more hc hv hs =>
    rw [Reader.run?_of_ok (run_nextElement_more hc hv)]
    simp only [Option.bind_some, h .none hv, Value.required?]
    cases decode _ with
    | none => rfl
    | some a => exact hf a hs

lemma decodesList_defaulted {r : Reader α} {decode : Value → Option α} (h : Decodes r decode)
    {f : α → Reader β} {g : α → List Value → Option β} (hf : ∀ a, DecodesList false (f a) (g a))
    (default : α) :
    DecodesList false (defaulted default r >>= f) (Value.defaulted? default decode g) := by
  intro t rest vs hs
  rw [Reader.run?_bind, defaulted, Reader.run?_bind]
  cases hs with
  | close hg =>
    rw [Reader.run?_of_ok (run_nextElement_close hg _)]
    exact hf default (.close .none)
  | more hc hv hs =>
    rw [Reader.run?_of_ok (run_nextElement_more hc hv)]
    simp only [Option.bind_some, h .none hv, Value.defaulted?]
    cases decode _ with
    | none => rfl
    | some a => exact hf a hs

lemma run_nextKey_close {t rest : List Char} (hg : Gap t ('\x7d' :: rest)) (first : Bool) :
    (nextKey first).run t = .ok (none, rest) := by
  simp only [nextKey, hg.skipSpace_eq, skipSpace_of_not_isSpace (c := '\x7d') rfl]

lemma run_nextKey_more {first : Bool} {t u rest : List Char} {k : String} (hc : Comma first t ('"' :: u))
    (hk : Literal.Spells u k.toList rest) : (nextKey first).run t = .ok (some k, rest) := by
  cases hc with
  | first hg =>
    simp [nextKey, hg.skipSpace_eq, skipSpace_of_not_isSpace (c := '"') rfl, Reader.run_map,
      Literal.run_read hk, Except.map]
  | next hg hm =>
    simp [nextKey, hg.skipSpace_eq, skipSpace_of_not_isSpace (c := ',') rfl, hm.skipSpace_eq,
      skipSpace_of_not_isSpace (c := '"') rfl, Reader.run_map, Literal.run_read hk, Except.map]

lemma run?_members {step : String → σ → Reader σ} {put : String → σ → Value → Option σ}
    (h : ∀ key acc, DecodesMember (step key acc) (put key acc)) {first : Bool} {t rest : List Char}
    {ms : List (String × Value)} (hs : Members first t ms rest) {fuel : Nat} (hf : ms.length < fuel)
    (acc : σ) :
    (members step fuel first acc).run? t =
      (ms.foldlM (fun acc m => put m.1 acc m.2) acc).map (·, rest) := by
  induction ms generalizing first t fuel acc with
  | nil =>
    obtain ⟨fuel, rfl⟩ := Nat.exists_eq_succ_of_ne_zero (Nat.ne_zero_of_lt hf)
    cases hs with
    | close hg =>
      rw [members, Reader.run?_bind, Reader.run?_of_ok (run_nextKey_close hg first)]
      rfl
  | cons m ms ih =>
    obtain ⟨fuel, rfl⟩ := Nat.exists_eq_succ_of_ne_zero (Nat.ne_zero_of_lt hf)
    cases hs with
    | more hc hk hv hs =>
      rw [members, Reader.run?_bind, Reader.run?_of_ok (run_nextKey_more hc hk), List.foldlM_cons]
      simp only [Option.bind_some, Reader.run?_bind, h _ _ hv]
      cases put _ acc _ with
      | none => rfl
      | some acc => exact ih hs (Nat.lt_of_succ_lt_succ hf) acc

lemma decodesObject_object {step : String → σ → Reader σ} {put : String → σ → Value → Option σ}
    (h : ∀ key acc, DecodesMember (step key acc) (put key acc)) (start : σ) :
    DecodesObject (object step start) fun ms => ms.foldlM (fun acc m => put m.1 acc m.2) start := by
  intro t rest ms hs
  have hl := hs.length_lt
  exact run?_members h hs (show ms.length < t.length + 1 by omega) start

lemma DecodesObject.bind {r : Reader α} {decode : List (String × Value) → Option α}
    (h : DecodesObject r decode) {f : α → Reader β} {g : α → Option β}
    (hf : ∀ a s, (f a).run? s = (g a).map (·, s)) : DecodesObject (r >>= f) fun ms => (decode ms).bind g := by
  intro t rest ms hs
  rw [Reader.run?_bind, h hs]
  dsimp only
  cases decode ms with
  | none => rfl
  | some a => exact hf a rest

lemma decodesMember_colon {r : Reader α} {decode : Value → Option α} (h : Decodes r decode) (f : α → β) :
    DecodesMember (colon >>= fun _ => r >>= fun a => pure (f a)) fun v => (decode v).map f := by
  intro t rest v hs
  obtain ⟨ht, hm, hv⟩ := hs
  rw [Reader.run?_bind, Reader.run?_of_ok (run_colon ht)]
  simp only [Option.bind_some, Reader.run?_bind, h hm hv]
  cases decode v <;> rfl

lemma DecodesMember.map {r : Reader α} {decode : Value → Option α} (h : DecodesMember r decode) (f : α → β) :
    DecodesMember (r >>= fun a => pure (f a)) fun v => (decode v).map f := by
  intro t rest v hs
  rw [Reader.run?_bind, h hs]
  dsimp only
  cases decode v <;> rfl

lemma decodesMember_unknown {a : α} {decode : Value → Option α} (h : ∀ v, decode v = some a) :
    DecodesMember (unknownMember >>= fun _ => pure a) decode := by
  intro t rest v hs
  obtain ⟨ht, hm, hv⟩ := hs
  rw [unknownMember, Reader.run?_bind, Reader.run?_bind, Reader.run?_of_ok (run_colon ht), h]
  simp only [Option.bind_some, Reader.run?_of_ok (hv.run_skipValue hm)]
  rfl

lemma decodesMember_once {r : Reader α} {decode : Value → Option α} (h : Decodes r decode) (name : String)
    (old : Option α) : DecodesMember (once name old r) (Value.once? decode old) := by
  cases old with
  | some _ =>
    intro t rest v hs
    rfl
  | none => exact decodesMember_colon h some

lemma run?_present (name : String) (a : Option α) (s : List Char) :
    (present name a).run? s = a.map (·, s) := by
  cases a <;> rfl

lemma decodes_dictionary {r : Reader α} {decode : Value → Option α} (h : Decodes r decode)
    (add : σ → String → α → σ) (start : σ) :
    Decodes (dictionary r add start) (Value.dictionary? decode add start) := by
  intro t u rest v hg hs
  have hk := hs.skipSpace_eq hg
  obtain ⟨c, s, hu, ho⟩ := hs.head
  by_cases hc : c = '\x7b'
  · obtain ⟨ms, rfl⟩ := (hc ▸ ho).eq_object
    obtain ⟨s, rfl, hms⟩ := hs.of_object
    have hr : (dictionary r add start).run? t = (object (entry r add) start).run? s := by
      simp only [Reader.run?, dictionary, hk]
    rw [hr]
    exact decodesObject_object (fun key acc => decodesMember_colon h (add acc key)) start hms
  · have hw : (dictionary r add start).run? t = none := by
      simp only [Reader.run?, dictionary, hk]
      split
      · rfl
      · exact absurd (List.cons.inj hu).1.symm hc
      · exact run?_wrongKind _ _
    cases v with
    | object _ => exact absurd ho hc
    | _ => exact hw

lemma decodes_record {inOrder byName : Reader α} {fromList : List Value → Option α}
    {fromObject : List (String × Value) → Option α}
    (hl : DecodesList true (inOrder >>= fun a => closeList >>= fun _ => pure a) fromList)
    (ho : DecodesObject byName fromObject) (expected : String) :
    Decodes (record expected inOrder byName) (Value.record? fromList fromObject) := by
  intro t u rest v hg hs
  have hk := hs.skipSpace_eq hg
  obtain ⟨c, s, hu, hv⟩ := hs.head
  by_cases hb : c = '['
  · obtain ⟨vs, rfl⟩ := (hb ▸ hv).eq_list
    obtain ⟨s, rfl, hvs⟩ := hs.of_list
    refine Eq.trans ?_ (hl hvs)
    simp only [Reader.run?, record, hk]
    rfl
  by_cases hc : c = '\x7b'
  · obtain ⟨ms, rfl⟩ := (hc ▸ hv).eq_object
    obtain ⟨s, rfl, hms⟩ := hs.of_object
    refine Eq.trans ?_ (ho hms)
    simp only [Reader.run?, record, hk]
  · have hw : (record expected inOrder byName).run? t = none := by
      simp only [Reader.run?, record, hk]
      split
      · rfl
      · exact absurd (List.cons.inj hu).1.symm hb
      · exact absurd (List.cons.inj hu).1.symm hc
      · exact run?_wrongKind _ _
    cases v with
    | list _ => exact absurd hv hb
    | object _ => exact absurd hv hc
    | _ => exact hw

end ContractAtlas.Json
