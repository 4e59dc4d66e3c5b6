import ContractAtlas.Proofs.Json.Members

/-! Values written in another way: the members of records in another order and with others of unknown names
among them. Neither changes what is decoded. -/

namespace ContractAtlas.Json

variable {α β : Type} {name : String} {ms ns : List (String × Value)} {decode : Value → Option α}

inductive Rearranged (fields : List String) (R : String → Value → Value → Prop) :
    List (String × Value) → List (String × Value) → Prop
  | nil : Rearranged fields R [] []
  | member {name : String} {v w : Value} {ms ns : List (String × Value)} : R name v w → Rearranged fields R ms ns →
      Rearranged fields R ((name, v) :: ms) ((name, w) :: ns)
  | unknown {name : String} {v : Value} {ms ns : List (String × Value)} : name ∉ fields → Rearranged fields R ms ns →
      Rearranged fields R ms ((name, v) :: ns)
  | swap {m n : String × Value} {ms : List (String × Value)} :
      Rearranged fields R (m :: n :: ms) (n :: m :: ms)
  | trans {ms ns os : List (String × Value)} : Rearranged fields R ms ns →
      Rearranged fields R ns os → Rearranged fields R ms os

inductive RecordAlike (fields : List String) (R : String → Value → Value → Prop) : Value → Value → Prop
  | same {v : Value} : RecordAlike fields R v v
  | members {ms ns : List (String × Value)} : Rearranged fields R ms ns → RecordAlike fields R (.object ms) (.object ns)

inductive ListAlike (R : Value → Value → Prop) : Value → Value → Prop
  | same {v : Value} : ListAlike R v v
  | elements {vs ws : List Value} : List.Forall₂ R vs ws → ListAlike R (.list vs) (.list ws)

inductive TableAlike (R : Value → Value → Prop) : Value → Value → Prop
  | same {v : Value} : TableAlike R v v
  | entries {ms ns : List (String × Value)} : List.Forall₂ (fun m n => m.1 = n.1 ∧ R m.2 n.2) ms ns →
      TableAlike R (.object ms) (.object ns)

lemma Rearranged.perm_named {fields : List String} {R : String → Value → Value → Prop}
    (h : Rearranged fields R ms ns) (hname : name ∈ fields) {f : Value → β}
    (hf : ∀ v w, R name v w → f v = f w) : ((named name ms).map f).Perm ((named name ns).map f) := by
  induction h with
  | nil => exact .refl _
  | @member k v w ms ns hR _ ih =>
    rw [named_cons, named_cons]
    by_cases hk : k = name
    · subst hk
      simpa [hf v w hR] using ih
    · simpa [hk] using ih
  | @unknown k v ms ns hk _ ih =>
    have hne : k ≠ name := fun he => hk (he ▸ hname)
    rwa [named_cons, if_neg hne]
  | @swap m n ms =>
    simp only [named_cons]
    by_cases hm : m.1 = name
    · by_cases hn : n.1 = name
      · simpa [hm, hn] using .swap _ _ _
      · simp [hm, hn]
    · by_cases hn : n.1 = name <;> simp [hm, hn]
  | trans _ _ ihm ihn => exact ihm.trans ihn

lemma Rearranged.of_perm {fields : List String} {R : String → Value → Value → Prop}
    (hR : ∀ name v, R name v v) (h : ms.Perm ns) : Rearranged fields R ms ns := by
  induction h with
  | nil => exact .nil
  | cons m _ ih => exact .member (hR _ _) ih
  | swap m n ms => exact .swap
  | trans _ _ ihm ihn => exact ihm.trans ihn

lemma once_iff_map_eq {a : α} : Once name ms (decode · = some a) ↔ (named name ms).map decode = [some a] := by
  rw [Once, List.map_eq_singleton_iff]

lemma once_congr_of_perm (h : ((named name ms).map decode).Perm ((named name ns).map decode)) (a : α) :
    Once name ms (decode · = some a) ↔ Once name ns (decode · = some a) := by
  rw [once_iff_map_eq, once_iff_map_eq, ← List.perm_singleton, ← List.perm_singleton]
  exact ⟨h.symm.trans, h.trans⟩

lemma named_eq_nil_congr {f : Value → β} (h : ((named name ms).map f).Perm ((named name ns).map f)) :
    named name ms = [] ↔ named name ns = [] := by
  rw [← List.map_eq_nil_iff (f := f), ← List.map_eq_nil_iff (f := f), ← List.perm_nil, ← List.perm_nil]
  exact ⟨h.symm.trans, h.trans⟩

lemma held_congr_of_perm (hnull : decode .null = none)
    (h : ((named name ms).map (Value.optional? decode)).Perm ((named name ns).map (Value.optional? decode)))
    (a : Option α) : Held name ms (decode · = some ·) a ↔ Held name ns (decode · = some ·) a := by
  simp only [Held, ← optional?_eq_some_iff hnull, named_eq_nil_congr h, once_congr_of_perm h]

section Alike

variable {R : Value → Value → Prop} (hR : ∀ v w, R v w → decode v = decode w) {v w : Value}

include hR

lemma list?_eq_of_alike (h : ListAlike R v w) : Value.list? decode v = Value.list? decode w := by
  cases h with
  | same => rfl
  | elements h =>
    rw [Value.list?, Value.list?]
    induction h with
    | nil => rfl
    | cons ha _ ih => rw [List.mapM_cons, List.mapM_cons, hR _ _ ha, ih]

lemma optional?_eq_of_alike (h : ListAlike R v w) :
    Value.optional? (Value.list? decode) v = Value.optional? (Value.list? decode) w := by
  have hl := list?_eq_of_alike hR h
  cases h with
  | same => rfl
  | elements _ => exact congrArg (Option.map some) hl

lemma dictionary?_eq_of_alike {σ : Type} (add : σ → String → α → σ) (start : σ) (h : TableAlike R v w) :
    Value.dictionary? decode add start v = Value.dictionary? decode add start w := by
  cases h with
  | same => rfl
  | entries h =>
    rw [Value.dictionary?, Value.dictionary?]
    induction h generalizing start with
    | nil => rfl
    | cons ha _ ih =>
      obtain ⟨hk, ha⟩ := ha
      rw [List.foldlM_cons, List.foldlM_cons, hk, hR _ _ ha]
      cases decode _ with
      | none => rfl
      | some a => exact ih _

end Alike

end ContractAtlas.Json
