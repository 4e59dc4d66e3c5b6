import ContractAtlas.Table
import Mathlib.Tactic.Lemma

namespace ContractAtlas.Table

variable {α : Type}

lemma insertInto_of_forall_lt {name : String} {es : List (String × α)} (h : ∀ e ∈ es, e.1 < name) (value : α) :
    insertInto name value es = es ++ [(name, value)] := by
  induction es with
  | nil => rfl
  | cons d es ih =>
    have hd := h d (.head _)
    rw [insertInto, if_neg, if_neg, ih fun e he => h e (.tail _ he), List.cons_append]
    · rintro rfl
      exact String.lt_irrefl _ hd
    · exact fun hlt => String.lt_irrefl _ (String.lt_trans hlt hd)

lemma entries_foldl_insert (t : Table α) {es : List (String × α)}
    (h : (t.entries ++ es).Pairwise fun a b => a.1 < b.1) :
    (es.foldl (fun t e => t.insert e.1 e.2) t).entries = t.entries ++ es := by
  induction es generalizing t with
  | nil => exact (List.append_nil _).symm
  | cons e es ih =>
    have hlt : ∀ d ∈ t.entries, d.1 < e.1 := fun d hd =>
      (List.pairwise_append.mp h).2.2 d hd e (.head _)
    have he : (t.insert e.1 e.2).entries = t.entries ++ [e] := insertInto_of_forall_lt hlt e.2
    rw [List.append_cons, ← he] at h ⊢
    exact ih _ h

lemma eq_of_entries_eq {t u : Table α} (h : t.entries = u.entries) : t = u := by
  cases t
  cases u
  cases h
  rfl

lemma ofList_entries (t : Table α) : ofList t.entries = t :=
  eq_of_entries_eq (entries_foldl_insert empty t.sorted)

section Collects

variable {β : Type} {t u : Table α} {key : β → String} {R : β → α → Prop} {bs cs : List β}

def Collects (t : Table α) (key : β → String) (R : β → α → Prop) (bs : List β) : Prop :=
  ∀ name x, t.get? name = some x ↔ ∃ b ∈ bs, key b = name ∧ R b x

lemma collects_nil : (empty : Table α).Collects key R [] := by
  intro name x
  simp

lemma Collects.perm (h : t.Collects key R bs) (hp : bs.Perm cs) : t.Collects key R cs := by
  intro name x
  simp only [h name x, hp.mem_iff]

lemma Collects.unique (ht : t.Collects key R bs) (hu : u.Collects key R bs) : t = u := by
  apply ext_get?
  intro name
  apply Option.ext
  intro x
  exact (ht name x).trans (hu name x).symm

lemma Collects.insert (h : t.Collects key R bs) {b : β} {value : α} (hb : ∀ x, R b x ↔ x = value)
    (hn : key b ∉ bs.map key) : (t.insert (key b) value).Collects key R (bs ++ [b]) := by
  have hne : ∀ c ∈ bs, key c ≠ key b := fun c hc he => hn (List.mem_map.mpr ⟨c, hc, he⟩)
  intro name x
  rw [get?_insert]
  by_cases hname : key b = name
  · subst hname
    simp only [if_true, Option.some.injEq, List.mem_append, List.mem_singleton]
    constructor
    · rintro rfl
      exact ⟨b, .inr rfl, rfl, (hb value).mpr rfl⟩
    · rintro ⟨c, hc | rfl, hk, hx⟩
      · exact absurd hk (hne c hc)
      · exact ((hb x).mp hx).symm
  · rw [if_neg hname, h]
    simp only [List.mem_append, List.mem_singleton]
    constructor
    · rintro ⟨c, hc, hk, hx⟩
      exact ⟨c, .inl hc, hk, hx⟩
    · rintro ⟨c, hc | rfl, hk, hx⟩
      · exact ⟨c, hc, hk, hx⟩
      · exact absurd hk hname

lemma Collects.mem_names_iff (h : t.Collects key R bs) (hR : ∀ b ∈ bs, ∃ x, R b x) {name : String} :
    name ∈ t.names ↔ name ∈ bs.map key := by
  simp only [← contains_iff, contains_eq, Option.isSome_iff_exists, h name, List.mem_map]
  constructor
  · rintro ⟨_, b, hb, hk, _⟩
    exact ⟨b, hb, hk⟩
  · rintro ⟨b, hb, hk⟩
    obtain ⟨x, hx⟩ := hR b hb
    exact ⟨x, b, hb, hk, hx⟩

end Collects

end ContractAtlas.Table
