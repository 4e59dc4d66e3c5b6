import ContractAtlas.Proofs.Layout.SlotView
import Mathlib.Order.Bounds.Basic

/-! The number of slots that a layout takes up. It is counted as the farthest end of any variable; in a
checked layout of values with bytes that is the end of the last one, and no slot is counted in vain. -/

namespace ContractAtlas.Layout

variable {l : Layout} {u v : Variable}

def Covers (l : Layout) (m : Nat) : Prop :=
  ∀ v ∈ l.vars, ∀ p, v.start ≤ p → p < l.stop v → p < 32 * m

lemma slotStop_le_slotStop (hu : l.Aligned u) (hv : l.Aligned v) (h : l.stop u ≤ v.start)
    (hw : 0 < l.width u) : l.slotStop u ≤ l.slotStop v := by
  have hle := slot_le_of_stop_le hu hv h fun he => hw.ne' he.1.1
  have hpos : 1 ≤ l.span v := Nat.le_max_right _ _
  rw [slotStop, slotStop]
  omega

lemma start_lt_stop (h : 0 < l.width v) : v.start < l.stop v := by
  rw [stop, extent]
  split <;> omega

lemma lt_stop_of_width_pos (h : l.Aligned v) (hw : 0 < l.width v) :
    32 * (l.slotStop v - 1) < l.stop v := by
  obtain ⟨hn, hz⟩ := h
  rw [slotStop, span, stop, extent, Variable.start]
  split <;> omega

lemma slotStop_le_of_covers {m : Nat} (h : l.Covers m) (hv : v ∈ l.vars) (ha : l.Aligned v)
    (hw : 0 < l.width v) : l.slotStop v ≤ m := by
  have hbyte := start_lt_stop hw
  have hlast := lt_stop_of_width_pos ha hw
  have hin := h v hv (l.stop v - 1) (by omega) (by omega)
  omega

section Packed

variable (h : l.Packed)
include h

lemma Packed.slotStop_le_last (hlast : l.vars.getLast? = some v) (hw : ∀ u ∈ l.vars, 0 < l.width u) :
    ∀ u ∈ l.vars, l.slotStop u ≤ l.slotStop v := by
  obtain ⟨us, hus⟩ := List.getLast?_eq_some_iff.mp hlast
  have hv := List.mem_of_getLast? hlast
  intro u hu
  rw [hus, List.mem_append, List.mem_singleton] at hu
  rcases hu with hu | rfl
  · have hmem : u ∈ l.vars := hus ▸ List.mem_append_left _ hu
    have happart := h.apart
    rw [hus, List.pairwise_append] at happart
    apply slotStop_le_slotStop (h.aligned u hmem) (h.aligned v hv) _ (hw u hmem)
    exact happart.2.2 u hu v (List.mem_singleton_self v)
  · exact Nat.le_refl _

lemma Packed.covers_iff (hlast : l.vars.getLast? = some v) (hw : ∀ u ∈ l.vars, 0 < l.width u)
    {m : Nat} : l.Covers m ↔ l.slotStop v ≤ m := by
  have hv := List.mem_of_getLast? hlast
  constructor
  · intro hm
    exact slotStop_le_of_covers hm hv (h.aligned v hv) (hw v hv)
  · intro hle u hu p _ hp
    have hstop := stop_le_slotStop (h.aligned u hu)
    have hmax := h.slotStop_le_last hlast hw u hu
    omega

lemma Packed.slotCount_of_last (hlast : l.vars.getLast? = some v) (hw : ∀ u ∈ l.vars, 0 < l.width u) :
    ∃ n, l.slotCount = .ok n ∧ n.toNat = l.slotStop v := by
  obtain ⟨n, hn, hmax⟩ := h.exists_slotCount
  obtain ⟨-, hall⟩ := foldl_max_le_iff.mp (Nat.le_of_eq hmax.symm)
  refine ⟨n, hn, Nat.le_antisymm ?_ (hall v (List.mem_of_getLast? hlast))⟩
  rw [hmax]
  exact foldl_max_le_iff.mpr ⟨Nat.zero_le _, h.slotStop_le_last hlast hw⟩

lemma Packed.exists_farthest (hne : l.vars ≠ []) : ∃ count, l.slotCount = .ok count ∧
    (∃ v ∈ l.vars, l.slotStop v = count.toNat) ∧ ∀ v ∈ l.vars, l.slotStop v ≤ count.toNat := by
  obtain ⟨count, hcount, hmax⟩ := h.exists_slotCount
  obtain ⟨-, hall⟩ := foldl_max_le_iff.mp (Nat.le_of_eq hmax.symm)
  refine ⟨count, hcount, ?_, hall⟩
  obtain ⟨u, hu⟩ := List.exists_mem_of_ne_nil _ hne
  have hpos : 0 < count.toNat := by
    have hspan : 1 ≤ l.span u := Nat.le_max_right _ _
    exact Nat.lt_of_lt_of_le (Nat.lt_of_lt_of_le hspan (Nat.le_add_left _ _)) (hall u hu)
  by_contra hnone
  have hle : l.vars.foldl (fun m v => max m (l.slotStop v)) 0 ≤ count.toNat - 1 := by
    refine foldl_max_le_iff.mpr ⟨Nat.zero_le _, fun v hv => ?_⟩
    exact Nat.le_sub_one_of_lt (Nat.lt_of_le_of_ne (hall v hv) fun he => hnone ⟨v, hv, he⟩)
  omega

lemma Packed.slotCount_mono {us : List Variable} (hus : us.Sublist l.vars) {n : Word}
    (hn : l.slotCount = .ok n) : ∃ m, (l.withVars us).slotCount = .ok m ∧ m.toNat ≤ n.toNat := by
  obtain ⟨m, hm, hmax⟩ := (h.withVars hus).exists_slotCount
  obtain ⟨-, hall⟩ := foldl_max_le_iff.mp (Nat.le_of_eq (slotCount_eq_ok_iff.mp hn).2.symm)
  refine ⟨m, hm, ?_⟩
  rw [hmax]
  exact foldl_max_le_iff.mpr ⟨Nat.zero_le _, fun u hu => hall u (hus.subset hu)⟩

end Packed

theorem slotCount_tight (h : l.check = .ok ()) (hlast : l.vars.getLast? = some v)
    (hw : ∀ u ∈ l.vars, 0 < l.width u) :
    ∃ n d, l.slotCount = .ok n ∧ l.types.get? v.type = some d ∧
      n.toNat = v.slot.toNat + d.slotsSpanned.toNat ∧ IsLeast {m | l.Covers m} n.toNat ∧
      ∀ us, us <+: l.vars → ∃ m, (l.withVars us).slotCount = .ok m ∧ m.toNat ≤ n.toNat := by
  have hp := packed_of_check h
  obtain ⟨n, hn, hstop⟩ := hp.slotCount_of_last hlast hw
  obtain ⟨d, hd⟩ := mem_names_iff.mp (hp.closed.ofVars v (List.mem_of_getLast? hlast))
  refine ⟨n, d, hn, hd, ?_, ⟨?_, fun m hm => ?_⟩, fun us hus => hp.slotCount_mono hus.sublist hn⟩
  · rw [hstop, slotStop, toNat_slotsSpanned_of_get? hd]
  · exact (hp.covers_iff hlast hw).mpr (Nat.le_of_eq hstop.symm)
  · rw [hstop]
    exact (hp.covers_iff hlast hw).mp hm

def archive : Layout where
  vars := [⟨1, "Archive", "owner", 0, 0, "t_address"⟩, ⟨2, "Archive", "roots", 0, 1, "t_roots"⟩,
    ⟨3, "Archive", "sealed", 31, 4, "t_bool"⟩]
  types :=
    { entries := [("t_address", ⟨.inplace, "address", 20, none, none, none, none⟩),
        ("t_bool", ⟨.inplace, "bool", 1, none, none, none, none⟩),
        ("t_roots", ⟨.inplace, "bytes32[3]", 96, none, none, none, none⟩)]
      sorted := by decide }

theorem slotCount_tight_archive : archive.check = .ok () ∧
    archive.vars.getLast? = some ⟨3, "Archive", "sealed", 31, 4, "t_bool"⟩ ∧
    (∀ u ∈ archive.vars, 0 < archive.width u) ∧
    ∃ n, archive.slotCount = .ok n ∧ IsLeast {m | archive.Covers m} n.toNat := by
  have hcheck : archive.check = .ok () := rfl
  have hlast : archive.vars.getLast? = some ⟨3, "Archive", "sealed", 31, 4, "t_bool"⟩ := rfl
  have hw : ∀ u ∈ archive.vars, 0 < archive.width u := by decide
  obtain ⟨n, _, hn, _, _, hleast, _⟩ := slotCount_tight hcheck hlast hw
  exact ⟨hcheck, hlast, hw, n, hn, hleast⟩

end ContractAtlas.Layout
