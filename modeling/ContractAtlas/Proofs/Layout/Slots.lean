import ContractAtlas.Proofs.Layout.Packing

namespace ContractAtlas.Layout

def span (l : Layout) (v : Variable) : Nat := max ((l.width v + 31) / 32) 1

def slotStop (l : Layout) (v : Variable) : Nat := v.slot.toNat + l.span v

lemma toNat_slotsSpanned_of_get? {l : Layout} {v : Variable} {d : Descriptor}
    (h : l.types.get? v.type = some d) : d.slotsSpanned.toNat = l.span v := by
  rw [Descriptor.toNat_slotsSpanned, span, width_of_get? h]

lemma slotAfter_eq_ok_iff {l : Layout} {v : Variable} {stop : Word} :
    l.slotAfter v = .ok stop ↔ v.type ∈ l.types.names ∧ stop.toNat = l.slotStop v := by
  have hadd (d : Descriptor) (hd : l.types.get? v.type = some d) :
      Word.add? v.slot (Word.ofUInt64 d.slotsSpanned) = some stop ↔ stop.toNat = l.slotStop v := by
    rw [Word.add?_eq_some_iff, Word.toNat_ofUInt64, toNat_slotsSpanned_of_get? hd, slotStop]
  simp only [slotAfter, bind_eq_ok_iff, descriptor_eq_ok_iff, mem_names_iff]
  constructor
  · rintro ⟨d, hd, hs⟩
    refine ⟨⟨d, hd⟩, (hadd d hd).mp ?_⟩
    split at hs
    · rename_i h
      cases hs
      exact h
    · cases hs
  · rintro ⟨⟨d, hd⟩, hs⟩
    exact ⟨d, hd, by rw [(hadd d hd).mpr hs]⟩

lemma reach_eq_ok_iff {l : Layout} {v : Variable} {last next : Word} :
    (do let stop ← l.slotAfter v
        return if last < stop then stop else last) = Except.ok next ↔
      v.type ∈ l.types.names ∧ l.slotStop v ≤ 2 ^ 256 - 1 ∧
        next.toNat = max last.toNat (l.slotStop v) := by
  have hmax (stop : Word) :
      (if last < stop then stop else last).toNat = max last.toNat stop.toNat := by
    simp only [BitVec.lt_def]
    split <;> omega
  rw [bind_eq_ok_iff]
  constructor
  · rintro ⟨stop, h, hnext⟩
    obtain ⟨hn, hs⟩ := slotAfter_eq_ok_iff.mp h
    cases hnext
    exact ⟨hn, by have := stop.isLt; omega, by rw [hmax, hs]⟩
  · rintro ⟨hn, hle, hnext⟩
    have hs : (BitVec.ofNat 256 (l.slotStop v)).toNat = l.slotStop v :=
      Word.toNat_ofNat_of_lt (by omega)
    refine ⟨BitVec.ofNat 256 (l.slotStop v), slotAfter_eq_ok_iff.mpr ⟨hn, hs⟩, ?_⟩
    exact congrArg Except.ok (BitVec.eq_of_toNat_eq (by rw [hmax, hs, hnext]))

lemma farthest_eq_ok_iff {l : Layout} {vs : List Variable} {last count : Word} :
    vs.foldlM (fun last v => do
        let stop ← l.slotAfter v
        return if last < stop then stop else last) last = .ok count ↔
      (∀ v ∈ vs, v.type ∈ l.types.names ∧ l.slotStop v ≤ 2 ^ 256 - 1) ∧
        count.toNat = vs.foldl (fun m v => max m (l.slotStop v)) last.toNat := by
  induction vs generalizing last with
  | nil =>
    have : last = count ↔ count.toNat = last.toNat := by rw [← BitVec.toNat_inj, eq_comm]
    simpa [pure, Except.pure] using this
  | cons v vs ih =>
    rw [List.foldlM_cons, bind_eq_ok_iff, List.forall_mem_cons, List.foldl_cons]
    constructor
    · rintro ⟨next, hnext, hrest⟩
      obtain ⟨hn, hle, hm⟩ := reach_eq_ok_iff.mp hnext
      obtain ⟨hvs, hc⟩ := ih.mp hrest
      exact ⟨⟨⟨hn, hle⟩, hvs⟩, hm ▸ hc⟩
    · rintro ⟨⟨⟨hn, hle⟩, hvs⟩, hc⟩
      have hm : (BitVec.ofNat 256 (max last.toNat (l.slotStop v))).toNat =
          max last.toNat (l.slotStop v) := by
        have := last.isLt
        exact Word.toNat_ofNat_of_lt (by omega)
      exact ⟨_, reach_eq_ok_iff.mpr ⟨hn, hle, hm⟩, ih.mpr ⟨hvs, hm.symm ▸ hc⟩⟩

lemma slotCount_eq_ok_iff {l : Layout} {count : Word} : l.slotCount = .ok count ↔
    (∀ v ∈ l.vars, v.type ∈ l.types.names ∧ l.slotStop v ≤ 2 ^ 256 - 1) ∧
      count.toNat = l.vars.foldl (fun m v => max m (l.slotStop v)) 0 :=
  farthest_eq_ok_iff

lemma foldl_max_le_iff {vs : List Variable} {f : Variable → Nat} {m bound : Nat} :
    vs.foldl (fun m v => max m (f v)) m ≤ bound ↔ m ≤ bound ∧ ∀ v ∈ vs, f v ≤ bound := by
  induction vs generalizing m with
  | nil => simp
  | cons v vs ih => rw [List.foldl_cons, ih, Nat.max_le, List.forall_mem_cons, and_assoc]

lemma slotStop_le_stop {l : Layout} {v : Variable} (h : l.Aligned v) :
    l.slotStop v ≤ max (l.stop v) 1 := by
  obtain ⟨hn, hw⟩ := h
  rw [slotStop, span, stop, extent, Variable.start]
  split <;> omega

lemma Packed.slotStop_le {l : Layout} (h : l.Packed) {v : Variable} (hv : v ∈ l.vars) :
    l.slotStop v ≤ 2 ^ 256 - 1 := by
  have hle := slotStop_le_stop (h.aligned v hv)
  have hb := h.bounded v hv
  omega

lemma Packed.exists_slotCount {l : Layout} (h : l.Packed) : ∃ count, l.slotCount = .ok count ∧
    count.toNat = l.vars.foldl (fun m v => max m (l.slotStop v)) 0 := by
  have hle : l.vars.foldl (fun m v => max m (l.slotStop v)) 0 ≤ 2 ^ 256 - 1 :=
    foldl_max_le_iff.mpr ⟨Nat.zero_le _, fun v hv => h.slotStop_le hv⟩
  have hcount := Word.toNat_ofNat_of_lt (Nat.lt_of_le_pred (by decide) hle)
  refine ⟨_, slotCount_eq_ok_iff.mpr ⟨fun v hv => ?_, hcount⟩, hcount⟩
  exact ⟨h.closed.ofVars v hv, h.slotStop_le hv⟩

end ContractAtlas.Layout
