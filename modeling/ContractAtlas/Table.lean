namespace ContractAtlas

structure Table (α : Type) where
  entries : List (String × α)
  sorted : entries.Pairwise fun a b => a.1 < b.1
  deriving DecidableEq, Repr

namespace Table

variable {α : Type}

def empty : Table α := ⟨[], .nil⟩

instance : Inhabited (Table α) := ⟨empty⟩

def insertInto (name : String) (value : α) : List (String × α) → List (String × α)
  | [] => [(name, value)]
  | e :: es =>
    if name < e.1 then (name, value) :: e :: es
    else if name = e.1 then (name, value) :: es
    else e :: insertInto name value es

theorem mem_insertInto {name : String} {value : α} {es : List (String × α)} {e : String × α}
    (h : e ∈ insertInto name value es) : e = (name, value) ∨ e ∈ es := by
  induction es with
  | nil => simpa [insertInto] using h
  | cons d es ih =>
    rw [insertInto] at h
    split at h
    · simpa using h
    · split at h
      · rcases List.mem_cons.mp h with h | h
        · exact .inl h
        · exact .inr (.tail _ h)
      · rcases List.mem_cons.mp h with h | h
        · exact .inr (h ▸ .head _)
        · exact (ih h).imp_right (.tail _)

theorem lt_of_not_lt_of_ne {a b : String} (h : ¬ a < b) (hne : a ≠ b) : b < a := by
  rw [String.not_lt] at h
  refine Decidable.not_not.mp fun hn => hne ?_
  exact String.le_antisymm (String.not_lt.mp hn) h

theorem sorted_insertInto (name : String) (value : α) {es : List (String × α)}
    (h : es.Pairwise fun a b => a.1 < b.1) :
    (insertInto name value es).Pairwise fun a b => a.1 < b.1 := by
  induction es with
  | nil => simp [insertInto]
  | cons d es ih =>
    obtain ⟨hd, hs⟩ := List.pairwise_cons.mp h
    rw [insertInto]
    split
    · rename_i hlt
      refine List.pairwise_cons.mpr ⟨fun e he => ?_, h⟩
      rcases List.mem_cons.mp he with rfl | he
      · exact hlt
      · exact String.lt_trans hlt (hd e he)
    · split
      · rename_i heq
        exact List.pairwise_cons.mpr ⟨fun e he => heq ▸ hd e he, hs⟩
      · rename_i hlt hne
        refine List.pairwise_cons.mpr ⟨fun e he => ?_, ih hs⟩
        rcases mem_insertInto he with rfl | he
        · exact lt_of_not_lt_of_ne hlt hne
        · exact hd e he

def insert (t : Table α) (name : String) (value : α) : Table α :=
  ⟨insertInto name value t.entries, sorted_insertInto name value t.sorted⟩

def get? (t : Table α) (name : String) : Option α :=
  (t.entries.find? fun e => e.1 == name).map Prod.snd

def contains (t : Table α) (name : String) : Bool :=
  t.entries.any fun e => e.1 == name

def names (t : Table α) : List String := t.entries.map Prod.fst

def ofList (es : List (String × α)) : Table α :=
  es.foldl (fun t e => t.insert e.1 e.2) empty

@[simp] theorem get?_empty (name : String) : (empty : Table α).get? name = none := rfl

theorem contains_eq (t : Table α) (name : String) : t.contains name = (t.get? name).isSome := by
  rw [contains, get?, Option.isSome_map, Bool.eq_iff_iff, List.find?_isSome, List.any_eq_true]

theorem contains_iff {t : Table α} {name : String} : t.contains name ↔ name ∈ t.names := by
  simp [contains, names]

theorem get?_insert (t : Table α) (name other : String) (value : α) :
    (t.insert name value).get? other = if name = other then some value else t.get? other := by
  obtain ⟨es, hs⟩ := t
  simp only [get?, insert]
  induction es with
  | nil => by_cases h : name = other <;> simp [insertInto, h]
  | cons d es ih =>
    obtain ⟨hd, hs⟩ := List.pairwise_cons.mp hs
    rw [insertInto]
    split
    · by_cases h : name = other <;> simp [h]
    · split
      · rename_i heq
        by_cases h : name = other
        · simp [h]
        · simp [h, ← heq]
      · rename_i hlt hne
        by_cases hd' : d.1 = other
        · have : name ≠ other := fun h => hne (h.trans hd'.symm)
          simp [hd', this]
        · simp [hd', ih hs]

theorem mem_entries_iff {t : Table α} {e : String × α} : e ∈ t.entries ↔ t.get? e.1 = some e.2 := by
  obtain ⟨es, hs⟩ := t
  simp only [get?]
  induction es with
  | nil => simp
  | cons d es ih =>
    obtain ⟨hd, hs⟩ := List.pairwise_cons.mp hs
    by_cases h : d.1 = e.1
    · have hn : e ∉ es := fun he => String.lt_irrefl e.1 (h ▸ hd e he)
      simp only [List.mem_cons, hn, or_false, List.find?_cons, h, beq_self_eq_true, Option.map_some,
        Option.some.injEq]
      exact ⟨fun he => he ▸ rfl, fun he => Prod.ext h.symm he.symm⟩
    · have hn : e ≠ d := fun he => h (he ▸ rfl)
      simp [hn, h, ih hs]

theorem ext_get? {t u : Table α} (h : ∀ name, t.get? name = u.get? name) : t = u := by
  have hmem : ∀ e, e ∈ t.entries ↔ e ∈ u.entries := fun e => by
    rw [mem_entries_iff, mem_entries_iff, h]
  obtain ⟨es, hs⟩ := t
  obtain ⟨fs, ht⟩ := u
  simp only at hmem
  have hirr : ∀ a b : String × α, a.1 < b.1 → a ≠ b := fun a b hab he =>
    String.lt_irrefl a.1 (he ▸ hab)
  have hperm : es.Perm fs :=
    (List.perm_ext_iff_of_nodup (hs.imp (hirr _ _)) (ht.imp (hirr _ _))).mpr hmem
  congr
  exact hperm.eq_of_pairwise (fun a b _ _ h₁ h₂ =>
    absurd (String.lt_trans h₁ h₂) (String.lt_irrefl _)) hs ht

end Table

end ContractAtlas
