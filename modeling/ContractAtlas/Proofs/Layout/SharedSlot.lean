import ContractAtlas.Proofs.Layout.Packing
import Mathlib.Algebra.GroupWithZero.Nat

/-! The variables of one slot. They need not be neighbours in the layout, but all of them lie apart, so that
those of at most a word share its 32 bytes and one that is wider has the slot for itself. -/

namespace ContractAtlas.Layout

variable {l : Layout} {slot : Word} {u v : Variable}

lemma mem_variablesInSlot_iff : v ∈ l.variablesInSlot slot ↔ v ∈ l.vars ∧ v.slot = slot := by
  rw [variablesInSlot, List.mem_filter, beq_iff_eq]

lemma extent_of_narrow (h : l.width v ≤ 32) : l.extent v = l.width v := if_pos h

lemma le_extent_of_wide (h : 32 < l.width v) : 64 ≤ l.extent v := by
  rw [extent, if_neg (Nat.not_le.mpr h)]
  omega

lemma Aligned.offset_le (h : l.Aligned v) : v.offset.toNat ≤ 32 := by
  obtain ⟨hn, hw⟩ := h
  omega

lemma offset_le_of_stop_le (hs : u.slot = v.slot) (h : l.stop u ≤ v.start) :
    u.offset.toNat + l.extent u ≤ v.offset.toNat := by
  rw [stop, Variable.start, Variable.start, hs] at h
  omega

lemma sum_width_le {vs : List Variable} {low : Nat} (hlow : low ≤ 32)
    (hp : vs.Pairwise fun u v => u.offset.toNat + l.width u ≤ v.offset.toNat)
    (hvs : ∀ v ∈ vs, low ≤ v.offset.toNat ∧ v.offset.toNat + l.width v ≤ 32) :
    low + (vs.map l.width).sum ≤ 32 := by
  induction vs generalizing low with
  | nil => exact hlow
  | cons v vs ih =>
    obtain ⟨hbehind, hp⟩ := List.pairwise_cons.mp hp
    obtain ⟨⟨hle, hfit⟩, hvs⟩ := List.forall_mem_cons.mp hvs
    have hrest := ih hfit hp fun w hw => ⟨hbehind w hw, (hvs w hw).2⟩
    rw [List.map_cons, List.sum_cons]
    omega

namespace Packed

variable (h : l.Packed)
include h

lemma aligned_of_mem_slot (hv : v ∈ l.variablesInSlot slot) : l.Aligned v :=
  h.aligned v (mem_variablesInSlot_iff.mp hv).1

lemma offsets_pairwise (slot : Word) : (l.variablesInSlot slot).Pairwise fun u v =>
    u.offset.toNat + l.extent u ≤ v.offset.toNat := by
  apply (h.apart.sublist List.filter_sublist).imp_of_mem
  intro u v hu hv hle
  have hs := (mem_variablesInSlot_iff.mp hu).2.trans (mem_variablesInSlot_iff.mp hv).2.symm
  exact offset_le_of_stop_le hs hle

lemma sum_width_slot_le (slot : Word) :
    (((l.variablesInSlot slot).filter fun v => l.width v ≤ 32).map l.width).sum ≤ 32 := by
  have hnarrow : ∀ v ∈ (l.variablesInSlot slot).filter (fun v => l.width v ≤ 32),
      v ∈ l.variablesInSlot slot ∧ l.width v ≤ 32 := by simp
  have hp : ((l.variablesInSlot slot).filter fun v => l.width v ≤ 32).Pairwise fun u v =>
      u.offset.toNat + l.width u ≤ v.offset.toNat := by
    apply ((h.offsets_pairwise slot).sublist List.filter_sublist).imp_of_mem
    intro u v hu _ hle
    rwa [extent_of_narrow (hnarrow u hu).2] at hle
  have hsum := sum_width_le (Nat.zero_le 32) hp fun v hv =>
    ⟨Nat.zero_le _, (h.aligned_of_mem_slot (hnarrow v hv).1).1 (hnarrow v hv).2⟩
  rwa [Nat.zero_add] at hsum

/-- A variable wider than its slot fills it from its first byte on, so that others in it have no bytes. -/
lemma alone_of_wide {before after : List Variable} (hs : l.variablesInSlot slot = before ++ v :: after)
    (hw : 32 < l.width v) : after = [] ∧ ∀ u ∈ before, l.width u = 0 := by
  have hp := h.offsets_pairwise slot
  rw [hs, List.pairwise_append] at hp
  obtain ⟨-, hafter, hbefore⟩ := hp
  have hmem : v ∈ l.variablesInSlot slot := by simp [hs]
  have hwide := le_extent_of_wide hw
  constructor
  · rw [List.eq_nil_iff_forall_not_mem]
    intro w hwm
    have hle := (List.pairwise_cons.mp hafter).1 w hwm
    have hslot : w ∈ l.variablesInSlot slot := by simp [hs, hwm]
    have hoffset := (h.aligned_of_mem_slot hslot).offset_le
    omega
  · intro u hu
    have hle := hbefore u hu v (.head _)
    have hzero := (h.aligned_of_mem_slot hmem).2 hw
    rw [hzero, extent] at hle
    split at hle <;> omega

end Packed

theorem variables_share_slot (h : l.check = .ok ()) (slot : Word) :
    (l.variablesInSlot slot).Sublist l.vars ∧
    (∀ v, v ∈ l.variablesInSlot slot ↔ v ∈ l.vars ∧ v.slot = slot) ∧
    (l.variablesInSlot slot).Pairwise (fun u v => u.offset ≤ v.offset ∧
      (l.width u ≤ 32 → u.offset.toNat + l.width u ≤ v.offset.toNat)) ∧
    (((l.variablesInSlot slot).filter fun v => l.width v ≤ 32).map l.width).sum ≤ 32 ∧
    ∀ before v after, l.variablesInSlot slot = before ++ v :: after → 32 < l.width v →
      after = [] ∧ ∀ u ∈ before, l.width u = 0 := by
  have hp := packed_of_check h
  refine ⟨List.filter_sublist, fun v => mem_variablesInSlot_iff, ?_, hp.sum_width_slot_le slot,
    fun before v after hs => hp.alone_of_wide hs⟩
  apply (hp.offsets_pairwise slot).imp
  intro u v hle
  refine ⟨UInt64.le_iff_toNat_le.mpr (Nat.le_of_add_right_le hle), fun hn => ?_⟩
  rwa [extent_of_narrow hn] at hle

def keeper : Variable := ⟨1, "Depot", "keeper", 0, 0, "t_address"⟩

def marker : Variable := ⟨2, "Depot", "marker", 20, 0, "t_empty"⟩

def level : Variable := ⟨3, "Depot", "level", 20, 0, "t_uint96"⟩

def door : Variable := ⟨4, "Depot", "door", 0, 1, "t_empty"⟩

def crates : Variable := ⟨5, "Depot", "crates", 0, 1, "t_crates"⟩

def depot : Layout where
  vars := [keeper, marker, level, door, crates]
  types :=
    { entries := [("t_address", ⟨.inplace, "address", 20, none, none, none, none⟩),
        ("t_crates", ⟨.inplace, "uint256[2]", 64, none, none, none, none⟩),
        ("t_empty", ⟨.inplace, "struct Empty", 0, none, none, none, none⟩),
        ("t_uint96", ⟨.inplace, "uint96", 12, none, none, none, none⟩)]
      sorted := by decide }

theorem variables_share_slot_depot : depot.check = .ok () ∧
    depot.variablesInSlot 0 = [keeper, marker, level] ∧ depot.variablesInSlot 1 = [door, crates] ∧
    (depot.variablesInSlot 0).Sublist depot.vars ∧
    (level ∈ depot.variablesInSlot 0 ↔ level ∈ depot.vars ∧ level.slot = 0) ∧
    (depot.variablesInSlot 0).Pairwise (fun u v => u.offset ≤ v.offset) ∧
    (((depot.variablesInSlot 0).filter fun v => depot.width v ≤ 32).map depot.width).sum ≤ 32 ∧
    32 < depot.width crates ∧ depot.width door = 0 := by
  have hcheck : depot.check = .ok () := by rfl
  have hfirst : depot.variablesInSlot 0 = [keeper, marker, level] := by rfl
  have hsecond : depot.variablesInSlot 1 = [door, crates] := by rfl
  have hcrates : 32 < depot.width crates := by decide
  obtain ⟨hsublist, hmem, hpair, hsum, -⟩ := variables_share_slot hcheck 0
  obtain ⟨-, -, -, -, hwide⟩ := variables_share_slot hcheck 1
  have hdoor := (hwide [door] crates [] hsecond hcrates).2 door (.head _)
  exact ⟨hcheck, hfirst, hsecond, hsublist, hmem level, hpair.imp And.left, hsum, hcrates, hdoor⟩

end ContractAtlas.Layout
