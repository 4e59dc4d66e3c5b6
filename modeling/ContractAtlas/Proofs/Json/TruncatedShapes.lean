import ContractAtlas.Proofs.Json.Records
import ContractAtlas.Proofs.Json.Truncation

/-! Lists, dictionaries and records that are cut off. What stands in them may not show its own end, since
the bracket that closes them has to come yet. -/

namespace ContractAtlas.Json

variable {α β σ : Type}

def Follows (r : Reader α) (decode : Value → Option α) (v : Value) : Prop :=
  ∀ ⦃t u rest : List Char⦄ ⦃a : α⦄, Gap t u → Spells u v rest →
    decode v = some a → Reaches r t a rest

def FollowsMember (r : Reader α) (decode : Value → Option α) (v : Value) : Prop :=
  ∀ ⦃t rest : List Char⦄ ⦃a : α⦄, Assigned t v rest → decode v = some a → Reaches r t a rest

lemma takes_of_run? {r : Reader α} {a : α} {o : Option α}
    (h : ∀ s, r.run? s = o.map (·, s)) (ha : o = some a)
    (t : List Char) : Takes r t a t := by
  intro p tail ht
  have hp := h p
  rw [ha, Option.map_some] at hp
  rw [toOption_eq_some_iff.mp hp]
  exact .read ht

section Scalars

variable {r : Reader α} {decode : Value → Option α} {t u rest : List Char} {v : Value}

lemma takes_text {s : String} (hg : Gap t u) (hs : Spells u v rest) (hv : v.string? = some s) :
    Takes text t s rest := by
  cases v with
  | string _ =>
    cases hv
    obtain ⟨u, rfl, h⟩ := hs.of_string
    exact (Literal.takes_read h).of_head hg rfl (fun p hp => ⟨.inValue, by simp only [text, hp]⟩)
      fun p left hp => by simp only [text, hp]
  | _ => cases hv

lemma follows_text (v : Value) : Follows text Value.string? v :=
  fun _ _ _ _ hg hs hv => (takes_text hg hs hv).reaches

lemma follows_behind_text {f : String → Reader α} {g : String → Option α}
    (hf : ∀ s t, (f s).run? t = (g s).map (·, t)) (v : Value) :
    Follows (text >>= f) (fun v => v.string?.bind g) v := by
  intro t u rest a hg hs ha
  obtain ⟨s, hv, ha⟩ := Option.bind_eq_some_iff.mp ha
  exact ((takes_text hg hs hv).bind (takes_of_run? (hf s) ha rest)).reaches

lemma follows_number64 (v : Value) : Follows number64 Value.count? v :=
  fun _ _ _ _ hg hs hv => reaches_number64 hg hs hv

lemma follows_optional (h : Follows r decode v) (hnil : ∃ e, r.run [] = cut e) :
    Follows (optional r) (Value.optional? decode) v := by
  intro t u rest a hg hs ha
  have hcut : ∀ p, skipSpace p = [] → ∃ e, (optional r).run p = cut e := fun p hp => by
    obtain ⟨e, he⟩ := hnil
    exact ⟨e, by simp only [optional, hp, Reader.run_map, he]; rfl⟩
  obtain ⟨c, s, hu, ho⟩ := hs.head
  by_cases hc : c = 'n'
  · obtain rfl := (hc ▸ ho).eq_null
    cases ha
    cases hs with
    | null =>
      have hword : Takes (constant ['u', 'l', 'l'] (none : Option α))
          ('u' :: 'l' :: 'l' :: rest) none rest :=
        (takes_word ['u', 'l', 'l'] rest).bind (takes_pure none rest)
      exact (hword.of_head hg rfl hcut fun p left hp => by simp only [optional, hp]).reaches
  · have hne : v ≠ .null := by
      rintro rfl
      exact hc ho
    obtain ⟨b, hb, rfl⟩ : ∃ b, decode v = some b ∧ some b = a := by
      cases v with
      | null => exact absurd rfl hne
      | _ => exact Option.map_eq_some_iff.mp ha
    have hmap : Reaches (some <$> r) u (some b) rest := (h .none hs hb).map some
    rintro p tail rfl
    subst hu
    rcases hg.skipSpace_prefix ho.isSpace_eq_false with hp | ⟨left, hp, hl⟩
    · obtain ⟨e, he⟩ := hcut p hp
      exact .inl (he ▸ .cut)
    · have hrun : (optional r).run p = (some <$> r).run (c :: left) := by
        simp only [optional, hp]
        split
        · rename_i hn
          exact absurd (List.cons.inj hn).1 hc
        · rfl
      rw [hrun]
      exact hmap (c :: left) tail (by rw [hl, List.cons_append])

end Scalars

section Lists

variable {r : Reader α} {decode : Value → Option α} {first : Bool} {t u rest : List Char}

lemma takes_nextElement_close (hg : Gap t (']' :: rest)) (first : Bool) :
    Takes (nextElement first) t false (']' :: rest) := by
  rintro p tail rfl
  rcases hg.skipSpace_prefix rfl with hp | ⟨left, hp, rfl⟩
  · simp only [nextElement, hp]
    exact .cut
  · simp only [nextElement, hp]
    exact .read rfl

lemma takes_nextElement_more {v : Value} (hc : Comma first t u) (hs : Spells u v rest) :
    Takes (nextElement first) t true u := by
  obtain ⟨c, s, rfl, ho⟩ := hs.head
  have hspace := ho.isSpace_eq_false
  have hne := ho.ne_bracket
  rintro p tail rfl
  cases hc with
  | first hg =>
    rcases hg.skipSpace_prefix hspace with hp | ⟨left, hp, rfl⟩
    · simp only [nextElement, hp]
      exact .cut
    · simp only [nextElement, hp, if_true]
      exact .read rfl
  | next hg hm =>
    rcases hg.skipSpace_prefix rfl with hp | ⟨mid, hp, rfl⟩
    · simp only [nextElement, hp]
      exact .cut
    · rcases hm.skipSpace_prefix hspace with hl | ⟨left, hl, rfl⟩
      · have hrun : (nextElement false).run p = cut .inValue := by simp [nextElement, hp, hl]
        exact hrun ▸ .cut
      · have hrun : (nextElement false).run p = .ok (true, c :: left) := by simp [nextElement, hp, hl, hne]
        exact hrun ▸ .read rfl

lemma takes_closeList (hg : Gap t (']' :: rest)) : Takes closeList t () rest :=
  (takes_pure () rest).of_head hg rfl (fun p hp => ⟨.inList, by simp only [closeList, hp]⟩)
    fun p left hp => by simp only [closeList, hp, Reader.run_pure]

lemma run_elements_nil (r : Reader α) (fuel : Nat) :
    (elements r fuel false).run [] = cut .inList := by
  cases fuel <;> rfl

lemma takes_elements {vs : List Value} (h : ∀ v ∈ vs, Follows r decode v) {as : List α}
    (hs : Elements first t vs rest) (ha : vs.mapM decode = some as) (fuel : Nat) :
    Takes (elements r fuel first) t as (']' :: rest) := by
  induction vs generalizing first t as fuel with
  | nil =>
    cases fuel with
    | zero => exact fun _ _ _ => .cut
    | succ fuel =>
      cases hs with
      | close hg =>
        cases ha
        rw [elements]
        exact (takes_nextElement_close hg first).bind (takes_pure [] _)
  | cons v vs ih =>
    cases fuel with
    | zero => exact fun _ _ _ => .cut
    | succ fuel =>
      cases hs with
      | more hc hv hs =>
        simp only [List.mapM_cons, Option.bind_eq_bind, Option.bind_eq_some_iff] at ha
        obtain ⟨a, ha, as, has, ⟨⟩⟩ := ha
        have hrest := ih (fun u hu => h u (.tail _ hu)) hs has fuel
        have hcut (a : α) : ∃ e, (elements r fuel false >>= fun as => pure (a :: as)).run [] = cut e :=
          ⟨.inList, by rw [Reader.run_bind, run_elements_nil]; rfl⟩
        rw [elements]
        exact (takes_nextElement_more hc hv).bind
          ((h v (.head _) .none hv ha).bind (hrest.map (a :: ·)) hcut)

lemma takes_list {vs : List Value} (h : ∀ v ∈ vs, Follows r decode v) {as : List α} (hg : Gap t u)
    (hs : Spells u (.list vs) rest) (ha : Value.list? decode (.list vs) = some as) :
    Takes (list r) t as rest := by
  obtain ⟨s, rfl, hvs⟩ := hs.of_list
  have hbody (fuel : Nat) : Takes (listBody r fuel) s as rest :=
    (takes_elements h hvs ha fuel).bind ((takes_closeList .none).bind (takes_pure as rest))
  have hlist : Takes ⟨fun s => (listBody r (s.length + 1)).run s⟩ s as rest :=
    fun p => hbody (p.length + 1) p
  exact hlist.of_head hg rfl (fun p hp => ⟨.inValue, by simp only [list, hp]⟩)
    fun p left hp => by simp only [list, hp]

end Lists

section Objects

variable {first : Bool} {t u rest : List Char}

lemma takes_nextKey_close (hg : Gap t ('\x7d' :: rest)) (first : Bool) :
    Takes (nextKey first) t none rest :=
  (takes_pure none rest).of_head hg rfl (fun p hp => ⟨.inObject, by simp only [nextKey, hp]⟩)
    fun p left hp => by simp only [nextKey, hp, Reader.run_pure]

lemma takes_nextKey_more {k : String} (hc : Comma first t ('"' :: u)) (hk : Literal.Spells u k.toList rest) :
    Takes (nextKey first) t (some k) rest := by
  have hread : Takes (some <$> Literal.read) u (some k) rest := (Literal.takes_read hk).map some
  cases hc with
  | first hg =>
    exact hread.of_head hg rfl (fun p hp => ⟨.inObject, by simp only [nextKey, hp]⟩)
      fun p left hp => by simp [nextKey, hp]
  | next hg hm =>
    rintro p tail rfl
    rcases hg.skipSpace_prefix rfl with hp | ⟨mid, hp, rfl⟩
    · simp only [nextKey, hp]
      exact .cut
    · rcases hm.skipSpace_prefix rfl with hl | ⟨left, hl, hu⟩
      · have hrun : (nextKey false).run p = cut .inValue := by simp [nextKey, hp, hl]
        exact hrun ▸ .cut
      · have hrun : (nextKey false).run p = (some <$> Literal.read).run left := by simp [nextKey, hp, hl]
        exact hrun ▸ hread left tail hu

lemma takes_colon {m : List Char} (hg : Gap t (':' :: m)) : Takes colon t () m :=
  (takes_pure () m).of_head hg rfl (fun p hp => ⟨.inObject, by simp only [colon, hp]⟩)
    fun p left hp => by simp only [colon, hp, Reader.run_pure]

lemma FollowsMember.map {r : Reader α} {decode : Value → Option α} {v : Value}
    (h : FollowsMember r decode v)
    (f : α → β) : FollowsMember (r >>= fun a => pure (f a)) (fun v => (decode v).map f) v := by
  intro t rest b hs hb
  obtain ⟨a, ha, rfl⟩ := Option.map_eq_some_iff.mp hb
  exact (h hs ha).map f

lemma Follows.behind_colon {r : Reader α} {decode : Value → Option α} {v : Value} (h : Follows r decode v)
    (f : α → β) :
    FollowsMember (colon >>= fun _ => r >>= fun a => pure (f a)) (fun v => (decode v).map f) v := by
  intro t rest b hs hb
  obtain ⟨a, ha, rfl⟩ := Option.map_eq_some_iff.mp hb
  obtain ⟨ht, hm, hv⟩ := hs
  exact (takes_colon ht).bind_reaches ((h hm hv ha).map f)

lemma Follows.once {r : Reader α} {decode : Value → Option α} {v : Value} (h : Follows r decode v)
    (name : String) (old : Option α) : FollowsMember (Json.once name old r) (Value.once? decode old) v := by
  cases old with
  | some _ => exact fun _ _ _ _ ha => nomatch ha
  | none => exact h.behind_colon some

variable {step : String → σ → Reader σ} {put : String → σ → Value → Option σ}
  {ms : List (String × Value)}

lemma run_members_nil (step : String → σ → Reader σ) (fuel : Nat) (acc : σ) :
    (members step fuel false acc).run [] = cut .inObject := by
  cases fuel <;> rfl

lemma takes_members (h : ∀ m ∈ ms, ∀ acc, FollowsMember (step m.1 acc) (put m.1 acc) m.2) {acc b : σ}
    (hs : Members first t ms rest) (hb : ms.foldlM (fun acc m => put m.1 acc m.2) acc = some b)
    (fuel : Nat) : Takes (members step fuel first acc) t b rest := by
  induction ms generalizing first t acc fuel with
  | nil =>
    cases fuel with
    | zero => exact fun _ _ _ => .cut
    | succ fuel =>
      cases hs with
      | close hg =>
        cases hb
        rw [members]
        exact (takes_nextKey_close hg first).bind (takes_pure _ _)
  | cons m ms ih =>
    cases fuel with
    | zero => exact fun _ _ _ => .cut
    | succ fuel =>
      cases hs with
      | more hc hk hv hs =>
        rw [List.foldlM_cons, Option.bind_eq_bind, Option.bind_eq_some_iff] at hb
        obtain ⟨next, hnext, hb⟩ := hb
        have hrest := ih (fun n hn => h n (.tail _ hn)) hs hb fuel
        have hcut (acc : σ) : ∃ e, (members step fuel false acc).run [] = cut e :=
          ⟨.inObject, run_members_nil step fuel acc⟩
        rw [members]
        exact (takes_nextKey_more hc hk).bind ((h _ (.head _) acc hv hnext).bind hrest hcut)

lemma takes_object (put : String → σ → Value → Option σ)
    (h : ∀ m ∈ ms, ∀ acc, FollowsMember (step m.1 acc) (put m.1 acc) m.2) {start b : σ}
    (hs : Members true t ms rest) (hb : ms.foldlM (fun acc m => put m.1 acc m.2) start = some b) :
    Takes (object step start) t b rest :=
  fun p => takes_members h hs hb (p.length + 1) p

lemma takes_dictionary {r : Reader α} {decode : Value → Option α} (h : ∀ m ∈ ms, Follows r decode m.2)
    {add : σ → String → α → σ} {start b : σ} (hg : Gap t u) (hs : Spells u (.object ms) rest)
    (hb : Value.dictionary? decode add start (.object ms) = some b) :
    Takes (dictionary r add start) t b rest := by
  obtain ⟨s, rfl, hms⟩ := hs.of_object
  have hmembers : ∀ m ∈ ms, ∀ acc, FollowsMember (entry r add m.1 acc)
      (fun v => (decode v).map (add acc m.1)) m.2 := fun m hm acc => (h m hm).behind_colon _
  exact (takes_object (fun key acc v => (decode v).map (add acc key)) hmembers hms hb).of_head hg rfl
    (fun p hp => ⟨.inValue, by simp only [dictionary, hp]⟩) fun p left hp => by simp only [dictionary, hp]

lemma takes_record {inOrder : Reader α} {finish : σ → Reader α} {finish? : σ → Option α}
    {start : σ} {a : α}
    (h : ∀ m ∈ ms, ∀ acc, FollowsMember (step m.1 acc) (put m.1 acc) m.2)
    (hfinish : ∀ acc s, (finish acc).run? s = (finish? acc).map (·, s)) (expected : String) (hg : Gap t u)
    (hs : Spells u (.object ms) rest)
    (ha : (ms.foldlM (fun acc m => put m.1 acc m.2) start).bind finish? = some a) :
    Takes (record expected inOrder (object step start >>= finish)) t a rest := by
  obtain ⟨acc, hacc, ha⟩ := Option.bind_eq_some_iff.mp ha
  obtain ⟨s, rfl, hms⟩ := hs.of_object
  have hlast := takes_of_run? (hfinish acc) ha rest
  exact ((takes_object put h hms hacc).bind hlast).of_head hg rfl
    (fun p hp => ⟨.inValue, by simp only [record, hp]⟩) fun p left hp => by simp only [record, hp]

end Objects

end ContractAtlas.Json
