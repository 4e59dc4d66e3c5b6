import ContractAtlas.Proofs.Storage.Mapping

/-! Variables that reach past the end of their word. The reader of scalars refuses them; the reader of
mappings never looks at where in its slot a mapping lies. -/

namespace ContractAtlas.Layout

variable {l : Layout} {label : String} {v : Variable} {d : Descriptor}

def moved (l : Layout) (offset : Variable → UInt64) : Layout :=
  { l with vars := l.vars.map fun v => { v with offset := offset v } }

lemma checkPacked_of_overflow (h : 32 < v.offset.toNat + d.width.toNat) :
    checkPacked v d = .error (.invalidLayout (.overflowsSlot v.label v.offset d.width v.slot)) := by
  have hno : checkPacked v d ≠ .ok () := by
    rw [Ne, checkPacked_eq_ok_iff]
    omega
  rw [checkPacked] at hno ⊢
  split at hno
  · split at hno
    · exact absurd rfl hno
    · rename_i hstop
      rw [if_neg hstop]
  · rfl

lemma find?_moved (l : Layout) (offset : Variable → UInt64) (label : String) :
    (l.moved offset).find? label = (l.find? label).map fun v => { v with offset := offset v } := by
  rw [find?, moved, List.find?_map]
  rfl

lemma variableNamed_moved (l : Layout) (offset : Variable → UInt64) (label : String) :
    (l.moved offset).variableNamed label =
      (l.variableNamed label).map fun v => { v with offset := offset v } := by
  have hname : (l.moved offset).contractName? = l.contractName? := by
    simp [contractName?, moved, Function.comp_def]
  rw [variableNamed, variableNamed, find?_moved, hname]
  cases l.find? label <;> rfl

lemma readMapping_moved (source : Source) (address : Address) (offset : Variable → UInt64)
    (key : Word) : source.readMapping address (l.moved offset) label key =
      source.readMapping address l label key := by
  rw [Source.readMapping, Source.readMapping, variableNamed_moved]
  cases l.variableNamed label <;> rfl

theorem readers_of_overflow (hv : l.find? label = some v) (hd : l.types.get? v.type = some d)
    (h : 32 < v.offset.toNat + d.width.toNat) (source : Source) (address : Address) :
    (d.fitsInWord = true → source.readVariable address l label =
      .error (.invalidLayout (.overflowsSlot label v.offset d.width v.slot))) ∧
    ¬ Answered (source.readVariable address l label) ∧
    ∀ value, l.MapsToWords label v value → ∀ key,
      Answered (source.readMapping address l label key) ∧
      ∀ offset, source.readMapping address (l.moved offset) label key =
        source.readMapping address l label key := by
  have hlabel : v.label = label := (find?_eq_some_iff.mp hv).1
  have hscalar : d.fitsInWord = true → source.readVariable address l label =
      .error (.invalidLayout (.overflowsSlot label v.offset d.width v.slot)) := by
    intro hf
    rw [Source.readVariable_of_find? hv hd, if_pos hf, checkPacked_of_overflow h, hlabel]
    rfl
  refine ⟨hscalar, ?_, ?_⟩
  · rintro ⟨x, hx⟩
    by_cases hf : d.fitsInWord = true
    · rw [hscalar hf] at hx
      cases hx
    · rw [Source.readVariable_of_find? hv hd, if_neg hf] at hx
      cases hx
  · intro value hvalue key
    refine ⟨⟨_, hvalue.readMapping_eq source address key⟩, ?_⟩
    intro offset
    exact readMapping_moved source address offset key

def flag (offset : UInt64) : Variable := ⟨1, "Flag", "flag", offset, 0, "t_bool"⟩

def flagged (offset : UInt64) : Layout where
  vars := [flag offset]
  types :=
    { entries := [("t_bool", ⟨.inplace, "bool", 1, none, none, none, none⟩)]
      sorted := by simp }

/-- The sum of the greatest offset and a width is no machine number; the mapping lies across two slots. -/
theorem readers_of_overflow_flagged :
    (flagged 0xffffffffffffffff).find? "flag" = some (flag 0xffffffffffffffff) ∧
      32 < (flag 0xffffffffffffffff).offset.toNat + 1 ∧
      Memory.empty.read.readVariable 7 (flagged 0xffffffffffffffff) "flag" =
        .error (.invalidLayout (.overflowsSlot "flag" 0xffffffffffffffff 1 0)) ∧
      (token 4).find? "balances" = some (balances 4) ∧ 32 < (balances 4).offset.toNat + 32 ∧
      ¬ Answered (Memory.empty.read.readVariable 7 (token 4) "balances") ∧
      Answered (Memory.empty.read.readMapping 7 (token 4) "balances" holder.toWord) ∧
      Memory.empty.read.readMapping 7 ((token 4).moved fun _ => 0) "balances" holder.toWord =
        Memory.empty.read.readMapping 7 (token 4) "balances" holder.toWord := by
  have hv : (flagged 0xffffffffffffffff).find? "flag" = some (flag 0xffffffffffffffff) := rfl
  have h : 32 < (flag 0xffffffffffffffff).offset.toNat + 1 := by decide
  have hmaps : (token 4).MapsToWords "balances" (balances 4) uint128 := mapsToWords_token rfl rfl
  have hacross : 32 < (balances 4).offset.toNat + 32 := by decide
  obtain ⟨hscalar, -, -⟩ := readers_of_overflow hv rfl h Memory.empty.read 7
  obtain ⟨-, hnone, hmapping⟩ := readers_of_overflow hmaps.found rfl hacross Memory.empty.read 7
  obtain ⟨hanswered, hmoved⟩ := hmapping uint128 hmaps holder.toWord
  exact ⟨hv, h, hscalar rfl, hmaps.found, hacross, hnone, hanswered, hmoved _⟩

theorem not_readers_of_overflow : ¬ ∀ (l : Layout) (label : String) (v : Variable) (d : Descriptor)
    (source : Source) (address : Address), l.find? label = some v → l.types.get? v.type = some d →
    32 < v.offset.toNat + d.width.toNat →
    (d.fitsInWord = true → ∃ violation,
      source.readVariable address l label = .error (.invalidLayout violation)) ∧
    (d.width.toNat ≤ 32 → ∀ value, l.MapsToWords label v value → ∀ key, ∃ violation,
      source.readMapping address l label key = .error (.invalidLayout violation)) := by
  intro h
  have hmaps : (token 4).MapsToWords "balances" (balances 4) uint128 := mapsToWords_token rfl rfl
  obtain ⟨violation, hfault⟩ := (h (token 4) "balances" _ _ Memory.empty.read 7 hmaps.found rfl
    (by decide)).2 (by decide) _ hmaps 0
  rw [hmaps.readMapping_eq] at hfault
  cases hfault

end ContractAtlas.Layout
