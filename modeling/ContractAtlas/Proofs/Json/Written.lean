import ContractAtlas.Proofs.Json.Grammar

namespace ContractAtlas.Json

namespace Number

lemma head_toDigits_ne_zero {n : Nat} (h : 0 < n) : ∃ c ds, Nat.toDigits 10 n = c :: ds ∧ c ≠ '0' := by
  induction n using Nat.strongRecOn with
  | ind n ih =>
    by_cases hn : n < 10
    · refine ⟨n.digitChar, [], Nat.toDigits_of_lt_base hn, ?_⟩
      rw [ne_eq, Nat.digitChar_eq_zero]
      omega
    · obtain ⟨c, ds, hd, hc⟩ := ih (n / 10) (by omega) (by omega)
      refine ⟨c, ds ++ [(n % 10).digitChar], ?_, hc⟩
      rw [Nat.toDigits_of_base_le (by omega) (by omega), hd, List.cons_append]

lemma integral_toDigits (n : Nat) : Integral (Nat.toDigits 10 n) := by
  have hdigit : ∀ c ∈ Nat.toDigits 10 n, c.isDigit = true := fun c hc =>
    Nat.isDigit_of_mem_toDigits (by omega) (by omega) hc
  by_cases h : n = 0
  · rw [h]
    exact .zero
  · obtain ⟨c, ds, hd, hc⟩ := head_toDigits_ne_zero (Nat.pos_of_ne_zero h)
    rw [hd] at hdigit ⊢
    exact .digits hc (hdigit c (.head _)) fun d hm => hdigit d (.tail _ hm)

lemma lexeme_toDigits (n : Nat) : Lexeme (Nat.toDigits 10 n) := (integral_toDigits n).lexeme

lemma ends_nil : Ends [] := by
  rintro _ ⟨⟩

lemma ends_cons {c : Char} (t : List Char) (h : c.isDigit = false ∧ c ≠ '.' ∧ c ≠ 'e' ∧ c ≠ 'E') :
    Ends (c :: t) := by
  rintro _ ⟨⟩
  exact h

end Number

namespace Literal

lemma spells_escape {c : Char} {t cs rest : List Char} (h : Spells t cs rest) :
    Spells (escape c ++ t) (c :: cs) rest := by
  unfold escape
  split
  iterate 7 exact .short rfl h
  rename_i hq hb _ _ _ _ _
  split
  · rename_i hc
    have hn := Char.ofNat_toNat c
    have hs := Spells.code (quad?_hexDigits hc) (by simp [isTrailing]; omega) (by simp [isLeading]; omega) h
    rwa [hn] at hs
  · rename_i hc
    exact .plain hq hb (Nat.le_of_not_lt hc) h

lemma spells_flatMap (cs rest : List Char) : Spells (cs.flatMap escape ++ '"' :: rest) cs rest := by
  induction cs with
  | nil => exact .close
  | cons c cs ih =>
    rw [List.flatMap_cons, List.append_assoc]
    exact spells_escape ih

lemma write_append (s : String) (rest : List Char) :
    write s ++ rest = '"' :: (s.toList.flatMap escape ++ '"' :: rest) := by
  simp [write]

end Literal

inductive Value.Proper : Value → Prop
  | null : Proper .null
  | boolean {b} : Proper (.boolean b)
  | number {digits} : Number.Lexeme digits → Proper (.number digits)
  | string {s} : Proper (.string s)
  | list {vs} : (∀ v ∈ vs, Proper v) → Proper (.list vs)
  | object {ms : List (String × Value)} : (∀ m ∈ ms, Proper m.2) → Proper (.object ms)

lemma Value.proper_ofNat (n : Nat) : Proper (ofNat n) := .number (Number.lexeme_toDigits n)

lemma Gap.newLine (level : Nat) (rest : List Char) : Gap (Value.newLine level ++ rest) rest := by
  refine .space rfl ?_
  induction 2 * level with
  | zero => exact .none
  | succ n ih => exact .space rfl ih

lemma Gap.ends {t u : List Char} (h : Gap t u) (hu : Number.Ends u) : Number.Ends t := by
  cases h with
  | none => exact hu
  | space hc _ =>
    rw [isSpace] at hc
    simp only [Bool.or_eq_true, beq_iff_eq] at hc
    rcases hc with ((rfl | rfl) | rfl) | rfl <;> exact Number.ends_cons _ (by decide)

lemma Elements.ends {t rest : List Char} {vs : List Value} (h : Elements false t vs rest) :
    Number.Ends t := by
  cases h with
  | close hg => exact hg.ends (Number.ends_cons _ (by decide))
  | more hc _ _ =>
    cases hc with
    | next hg _ => exact hg.ends (Number.ends_cons _ (by decide))

lemma Members.ends {t rest : List Char} {ms : List (String × Value)} (h : Members false t ms rest) :
    Number.Ends t := by
  cases h with
  | close hg => exact hg.ends (Number.ends_cons _ (by decide))
  | more hc _ _ _ =>
    cases hc with
    | next hg _ => exact hg.ends (Number.ends_cons _ (by decide))

namespace Value

mutual

theorem spells_compact {rest : List Char} (hr : Number.Ends rest) :
    ∀ {v : Value}, v.Proper → Spells (v.compact ++ rest) v rest
  | .null, _ => .null
  | .boolean _, _ => .boolean
  | .number _, .number h => .number h hr
  | .string s, _ => by
    rw [compact, Literal.write_append]
    exact .string (Literal.spells_flatMap _ rest)
  | .list [], _ => .list (.close .none)
  | .list (v :: vs), .list h => by
    have hs : Elements false (compactElements vs ++ rest) vs rest := elements_compact fun u hu => h u (.tail _ hu)
    have hv := spells_compact hs.ends (h v (.head _))
    rw [compact]
    simp only [List.cons_append, List.append_assoc]
    exact .list (.more (.first .none) hv hs)
  | .object [], _ => .object (.close .none)
  | .object ((k, v) :: ms), .object h => by
    have hs : Members false (compactMembers ms ++ rest) ms rest := members_compact fun m hm => h m (.tail _ hm)
    have hv := spells_compact hs.ends (h (k, v) (.head _))
    rw [compact]
    simp only [List.cons_append, List.append_assoc, Literal.write_append]
    exact .object (.more (.first .none) (Literal.spells_flatMap _ _) (.colon .none .none hv) hs)

theorem elements_compact {rest : List Char} :
    ∀ {vs : List Value}, (∀ v ∈ vs, v.Proper) → Elements false (compactElements vs ++ rest) vs rest
  | [], _ => .close .none
  | v :: vs, h => by
    have hs : Elements false (compactElements vs ++ rest) vs rest := elements_compact fun u hu => h u (.tail _ hu)
    have hv := spells_compact hs.ends (h v (.head _))
    rw [compactElements]
    simp only [List.cons_append, List.append_assoc]
    exact .more (.next .none .none) hv hs

theorem members_compact {rest : List Char} :
    ∀ {ms : List (String × Value)}, (∀ m ∈ ms, m.2.Proper) →
      Members false (compactMembers ms ++ rest) ms rest
  | [], _ => .close .none
  | (k, v) :: ms, h => by
    have hs : Members false (compactMembers ms ++ rest) ms rest := members_compact fun m hm => h m (.tail _ hm)
    have hv := spells_compact hs.ends (h (k, v) (.head _))
    rw [compactMembers]
    simp only [List.cons_append, List.append_assoc, Literal.write_append]
    exact .more (.next .none .none) (Literal.spells_flatMap _ _) (.colon .none .none hv) hs

end

mutual

theorem spells_indented {rest : List Char} (hr : Number.Ends rest) (level : Nat) :
    ∀ {v : Value}, v.Proper → Spells (v.indented level ++ rest) v rest
  | .null, _ => .null
  | .boolean _, _ => .boolean
  | .number _, .number h => .number h hr
  | .string s, _ => by
    rw [indented, Literal.write_append]
    exact .string (Literal.spells_flatMap _ rest)
  | .list [], _ => .list (.close .none)
  | .list (v :: vs), .list h => by
    have hs : Elements false (indentedElements level vs ++ rest) vs rest :=
      elements_indented level fun u hu => h u (.tail _ hu)
    have hv := spells_indented hs.ends (level + 1) (h v (.head _))
    rw [indented]
    simp only [List.cons_append, List.append_assoc]
    exact .list (.more (.first (.newLine _ _)) hv hs)
  | .object [], _ => .object (.close .none)
  | .object ((k, v) :: ms), .object h => by
    have hs : Members false (indentedMembers level ms ++ rest) ms rest :=
      members_indented level fun m hm => h m (.tail _ hm)
    have hv := spells_indented hs.ends (level + 1) (h (k, v) (.head _))
    rw [indented]
    simp only [List.cons_append, List.append_assoc, Literal.write_append]
    exact .object (.more (.first (.newLine _ _)) (Literal.spells_flatMap _ _)
      (.colon .none (.space rfl .none) hv) hs)

theorem elements_indented {rest : List Char} (level : Nat) :
    ∀ {vs : List Value}, (∀ v ∈ vs, v.Proper) →
      Elements false (indentedElements level vs ++ rest) vs rest
  | [], _ => by
    rw [indentedElements, List.append_assoc]
    exact .close (.newLine _ _)
  | v :: vs, h => by
    have hs : Elements false (indentedElements level vs ++ rest) vs rest :=
      elements_indented level fun u hu => h u (.tail _ hu)
    have hv := spells_indented hs.ends (level + 1) (h v (.head _))
    rw [indentedElements]
    simp only [List.cons_append, List.append_assoc]
    exact .more (.next .none (.newLine _ _)) hv hs

theorem members_indented {rest : List Char} (level : Nat) :
    ∀ {ms : List (String × Value)}, (∀ m ∈ ms, m.2.Proper) →
      Members false (indentedMembers level ms ++ rest) ms rest
  | [], _ => by
    rw [indentedMembers, List.append_assoc]
    exact .close (.newLine _ _)
  | (k, v) :: ms, h => by
    have hs : Members false (indentedMembers level ms ++ rest) ms rest :=
      members_indented level fun m hm => h m (.tail _ hm)
    have hv := spells_indented hs.ends (level + 1) (h (k, v) (.head _))
    rw [indentedMembers]
    simp only [List.cons_append, List.append_assoc, Literal.write_append]
    exact .more (.next .none (.newLine _ _)) (Literal.spells_flatMap _ _)
      (.colon .none (.space rfl .none) hv) hs

end

lemma Proper.isText_compact {v : Value} (h : v.Proper) : IsText v.compact v := by
  have hs := spells_compact Number.ends_nil h
  rw [List.append_nil] at hs
  exact ⟨_, _, .none, hs, .none⟩

lemma Proper.isText_indented {v : Value} (h : v.Proper) (level : Nat) : IsText (v.indented level) v := by
  have hs := spells_indented Number.ends_nil level h
  rw [List.append_nil] at hs
  exact ⟨_, _, .none, hs, .none⟩

end Value

end ContractAtlas.Json
