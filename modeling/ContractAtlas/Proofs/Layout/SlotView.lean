import ContractAtlas.Proofs.Layout.Slots

/-! Slots against bytes. The walk over the variables compares positions in bytes and holds them in a word, so
that it says less of slots at the edges of a slot, where a value without bytes may lie, and knows only the
first 1/32 of all slots. -/

namespace ContractAtlas.Layout

def lastSlot (l : Layout) (v : Variable) : Nat :=
  v.slot.toNat + (l.types.get? v.type).elim 1 (fun d => d.slotsSpanned.toNat) - 1

def EmptyAt (l : Layout) (offset : Nat) (v : Variable) : Prop :=
  l.width v = 0 ∧ v.offset.toNat = offset

instance (l : Layout) (offset : Nat) (v : Variable) : Decidable (l.EmptyAt offset v) :=
  inferInstanceAs (Decidable (_ ∧ _))

lemma lastSlot_eq {l : Layout} {v : Variable} (h : v.type ∈ l.types.names) :
    l.lastSlot v = v.slot.toNat + l.span v - 1 := by
  obtain ⟨d, hd⟩ := mem_names_iff.mp h
  rw [lastSlot, hd, Option.elim_some, toNat_slotsSpanned_of_get? hd]

lemma stop_le_slotStop {l : Layout} {v : Variable} (h : l.Aligned v) : l.stop v ≤ 32 * l.slotStop v := by
  obtain ⟨hn, hw⟩ := h
  rw [stop, extent, slotStop, span, Variable.start]
  split <;> omega

lemma stop_of_wide {l : Layout} {v : Variable} (h : l.Aligned v) (hw : 32 < l.width v) :
    l.stop v = 32 * l.slotStop v := by
  have hz := h.2 hw
  rw [stop, extent, if_neg (Nat.not_le.mpr hw), slotStop, span, Variable.start]
  omega

lemma slot_le_of_stop_le {l : Layout} {u v : Variable} (hu : l.Aligned u) (hv : l.Aligned v)
    (h : l.stop u ≤ v.start) (he : ¬ (l.EmptyAt 0 u ∧ l.EmptyAt 32 v)) :
    u.slot.toNat + l.span u - 1 ≤ v.slot.toNat := by
  simp only [EmptyAt, not_and] at he
  obtain ⟨hvn, hvw⟩ := hv
  by_cases hw : 32 < l.width u
  · rw [stop_of_wide hu hw, slotStop, Variable.start] at h
    omega
  · rw [stop, extent, if_pos (Nat.not_lt.mp hw), Variable.start, Variable.start] at h
    rw [span]
    omega

lemma slot_lt_of_stop_le {l : Layout} {u v : Variable} (hu : l.Aligned u) (hv : l.Aligned v)
    (h : l.stop u ≤ v.start) (hw : 32 < l.width u ∨ 32 < l.width v) (hun : ¬ l.EmptyAt 0 u)
    (hvn : ¬ l.EmptyAt 32 v) : u.slot.toNat + l.span u - 1 < v.slot.toNat := by
  simp only [EmptyAt, not_and] at hun hvn
  obtain ⟨hvs, hvw⟩ := hv
  have hpos : 1 ≤ l.span u := Nat.le_max_right _ _
  by_cases hwu : 32 < l.width u
  · rw [stop_of_wide hu hwu, slotStop, Variable.start] at h
    omega
  · have hz := hvw (hw.resolve_left hwu)
    have hone : l.span u = 1 := by
      rw [span]
      omega
    rw [stop, extent, if_pos (Nat.not_lt.mp hwu), Variable.start, Variable.start] at h
    omega

theorem slots_ascend_of_check {l : Layout} (h : l.check = .ok ()) :
    l.vars.Pairwise fun u v =>
      (¬ (l.EmptyAt 0 u ∧ l.EmptyAt 32 v) → l.lastSlot u ≤ v.slot.toNat) ∧
        (32 < l.width u ∨ 32 < l.width v → ¬ l.EmptyAt 0 u → ¬ l.EmptyAt 32 v →
          l.lastSlot u < v.slot.toNat) := by
  have hp := packed_of_check h
  apply hp.apart.imp_of_mem
  intro u v hu hv hle
  have hau := hp.aligned u hu
  have hav := hp.aligned v hv
  rw [lastSlot_eq (hp.closed.ofVars u hu)]
  exact ⟨slot_le_of_stop_le hau hav hle, slot_lt_of_stop_le hau hav hle⟩

/-- Values without bytes lie at both edges of slots that others reach into. -/
def edges : Layout where
  vars := [⟨1, "Edges", "opened", 0, 5, "t_empty"⟩, ⟨2, "Edges", "closed", 32, 4, "t_empty"⟩,
    ⟨3, "Edges", "deposits", 0, 5, "t_deposits"⟩, ⟨4, "Edges", "settled", 32, 6, "t_empty"⟩,
    ⟨5, "Edges", "owner", 0, 7, "t_address"⟩]
  types :=
    { entries := [("t_address", ⟨.inplace, "address", 20, none, none, none, none⟩),
        ("t_deposits", ⟨.inplace, "uint256[2]", 64, none, none, none, none⟩),
        ("t_empty", ⟨.inplace, "struct Empty", 0, none, none, none, none⟩)]
      sorted := by decide }

theorem slots_ascend_edges : edges.check = .ok () ∧
    edges.lastSlot ⟨3, "Edges", "deposits", 0, 5, "t_deposits"⟩ < 7 := by
  have hcheck : edges.check = .ok () := by rfl
  have hp := slots_ascend_of_check hcheck
  have hpair := List.rel_of_pairwise_cons hp.tail.tail (.tail _ (.head _))
  exact ⟨hcheck, hpair.2 (.inl (by decide)) (by decide) (by decide)⟩

theorem not_slots_ascend_edges : edges.check = .ok () ∧
    ¬ (edges.vars.Pairwise fun u v => edges.lastSlot u ≤ v.slot.toNat) ∧
    ¬ edges.vars.Pairwise fun u v =>
      32 < edges.width u ∨ 32 < edges.width v → edges.lastSlot u < v.slot.toNat := by
  refine ⟨by rfl, by decide, by decide⟩

lemma startOf_cases (v : Variable) : (∃ start, startOf v = .ok start) ∨
    startOf v = .error (.invalidLayout (.outOfRange v.label)) := by
  rw [startOf]
  cases bytePosition? v.slot v.offset with
  | none => exact .inr rfl
  | some start => exact .inl ⟨start, rfl⟩

lemma stopOf_cases (v : Variable) (d : Descriptor) (start : Word) : (∃ stop, stopOf v d start = .ok stop) ∨
    stopOf v d start = .error (.invalidLayout (.pastLastSlot v.label)) := by
  rw [stopOf]
  cases Word.add? start (occupied d) with
  | none => exact .inr rfl
  | some stop => exact .inl ⟨stop, rfl⟩

lemma place_of_aligned {l : Layout} {previous : Option (String × Word)} {v : Variable}
    (hn : v.type ∈ l.types.names) (ha : l.Aligned v) (hb : ∀ p ∈ previous, p.2.toNat ≤ v.start) :
    (∃ stop, l.place previous v = .ok stop ∧ stop.toNat = l.stop v) ∨
      2 ^ 256 ≤ l.stop v ∧ (l.place previous v = .error (.invalidLayout (.outOfRange v.label)) ∨
        l.place previous v = .error (.invalidLayout (.pastLastSlot v.label))) := by
  by_cases hlt : l.stop v < 2 ^ 256
  · have hs := Word.toNat_ofNat_of_lt hlt
    exact .inl ⟨_, place_eq_ok_iff.mpr ⟨hn, ha, hb, hs⟩, hs⟩
  · refine .inr ⟨Nat.le_of_not_lt hlt, ?_⟩
    obtain ⟨d, hd⟩ := mem_names_iff.mp hn
    have hda := ha
    rw [Aligned, width_of_get? hd] at hda
    simp only [place, descriptor_eq_ok_iff.mpr hd, checkAligned_eq_ok_iff.mpr hda, bind, Except.bind]
    rcases startOf_cases v with ⟨start, hstart⟩ | hstart
    · have hs := startOf_eq_ok_iff.mp hstart
      have hbehind : checkBehind previous v start = .ok () := checkBehind_eq_ok_iff.mpr (hs ▸ hb)
      rcases stopOf_cases v d start with ⟨stop, hstop⟩ | hstop
      · have hend : stop.toNat = l.stop v := by
          rw [stopOf_eq_ok_iff.mp hstop, hs, toNat_occupied, ← width_of_get? hd]
          rfl
        exact absurd (hend ▸ stop.isLt) hlt
      · exact .inr (by simp only [hstart, hbehind, hstop])
    · exact .inl (by simp only [hstart])

lemma placeAll_of_aligned {l : Layout} {previous : Option (String × Word)} {vs : List Variable}
    (hn : ∀ v ∈ vs, v.type ∈ l.types.names) (ha : ∀ v ∈ vs, l.Aligned v)
    (hb : ∀ p ∈ previous, ∀ v ∈ vs, p.2.toNat ≤ v.start)
    (hp : vs.Pairwise fun u v => l.stop u ≤ v.start) :
    l.placeAll previous vs = .ok () ∨ ∃ v ∈ vs, 2 ^ 256 ≤ l.stop v ∧
      (l.placeAll previous vs = .error (.invalidLayout (.outOfRange v.label)) ∨
        l.placeAll previous vs = .error (.invalidLayout (.pastLastSlot v.label))) := by
  -- the walk keeps the end of the last variable at or before the start of all that follow
  induction vs generalizing previous with
  | nil => exact .inl rfl
  | cons v vs ih =>
    obtain ⟨hstop, hvs⟩ := List.pairwise_cons.mp hp
    rcases place_of_aligned (hn v (.head _)) (ha v (.head _)) (fun p hm => hb p hm v (.head _)) with
      ⟨stop, hplace, hs⟩ | ⟨hle, hplace⟩
    · simp only [placeAll, hplace, bind, Except.bind]
      have hbehind : ∀ p ∈ some (v.label, stop), ∀ w ∈ vs, p.2.toNat ≤ w.start := by
        rintro _ ⟨⟩ w hw
        exact hs ▸ hstop w hw
      rcases ih (fun w hw => hn w (.tail _ hw)) (fun w hw => ha w (.tail _ hw)) hbehind hvs with
        h | ⟨w, hw, h⟩
      · exact .inl h
      · exact .inr ⟨w, .tail _ hw, h⟩
    · refine .inr ⟨v, .head _, hle, ?_⟩
      rcases hplace with hplace | hplace
      · exact .inl (by rw [placeAll, hplace]; rfl)
      · exact .inr (by rw [placeAll, hplace]; rfl)

lemma stop_lt_of_slotCount {l : Layout} {count : Word} (ha : ∀ v ∈ l.vars, l.Aligned v)
    (hs : l.slotCount = .ok count) (hlt : count.toNat < 2 ^ 251) : ∀ v ∈ l.vars, l.stop v < 2 ^ 256 := by
  intro v hv
  have hc := (slotCount_eq_ok_iff.mp hs).2
  have hle := (foldl_max_le_iff.mp (Nat.le_of_eq hc.symm)).2 v hv
  have hstop := stop_le_slotStop (ha v hv)
  omega

/-- A layout that obeys the rules is accepted if its slots are among the first 2²⁵¹, whose positions in
bytes are words. Of another one the walk says that a variable is out of range or past the last slot,
although it is neither. -/
theorem check_of_rules {l : Layout} {count : Word} (hc : l.Closed) (ha : ∀ v ∈ l.vars, l.Aligned v)
    (hp : l.vars.Pairwise fun u v => l.stop u ≤ v.start) (hs : l.slotCount = .ok count) :
    (count.toNat < 2 ^ 251 → l.check = .ok ()) ∧
    (l.check = .ok () ↔ ∀ v ∈ l.vars, l.stop v < 2 ^ 256) ∧
    (l.check = .ok () ∨ ∃ v ∈ l.vars, 2 ^ 256 ≤ l.stop v ∧
      (l.check = .error (.invalidLayout (.outOfRange v.label)) ∨
        l.check = .error (.invalidLayout (.pastLastSlot v.label)))) := by
  have hiff : l.check = .ok () ↔ ∀ v ∈ l.vars, l.stop v < 2 ^ 256 := by
    constructor
    · intro h v hv
      have hb := (packed_of_check h).bounded v hv
      omega
    · intro h
      exact check_of_packed ⟨hc, ha, hp, fun v hv => Nat.le_sub_one_of_lt (h v hv)⟩
  refine ⟨fun hlt => hiff.mpr (stop_lt_of_slotCount ha hs hlt), hiff, ?_⟩
  rw [check, missingType?_eq_none_iff.mpr hc]
  exact placeAll_of_aligned hc.ofVars ha (by simp) hp

def namespaced (slot : Word) : Layout where
  vars := [⟨1, "Vault", "owner", 0, 0, "t_address"⟩, ⟨2, "Vault", "total", 0, slot, "t_uint256"⟩]
  types :=
    { entries := [("t_address", ⟨.inplace, "address", 20, none, none, none, none⟩),
        ("t_uint256", ⟨.inplace, "uint256", 32, none, none, none, none⟩)]
      sorted := by decide }

lemma closed_namespaced (slot : Word) : (namespaced slot).Closed :=
  missingType?_eq_none_iff.mp rfl

lemma aligned_namespaced (slot : Word) : ∀ v ∈ (namespaced slot).vars, (namespaced slot).Aligned v := by
  rintro _ (_ | ⟨_, _ | ⟨_, ⟨⟩⟩⟩)
  · exact ⟨fun _ => (by decide : 20 ≤ 32), fun _ => rfl⟩
  · exact ⟨fun _ => Nat.le_refl 32, fun _ => rfl⟩

theorem check_of_rules_namespaced :
    (namespaced (BitVec.twoPow 256 250)).slotCount = .ok (BitVec.twoPow 256 250 + 1) ∧
      (namespaced (BitVec.twoPow 256 250)).check = .ok () := by
  have hs : (namespaced (BitVec.twoPow 256 250)).slotCount = .ok (BitVec.twoPow 256 250 + 1) := by rfl
  exact ⟨hs, (check_of_rules (closed_namespaced _) (aligned_namespaced _) (by decide) hs).1 (by decide)⟩

theorem not_check_of_rules : ¬ ∀ l : Layout, l.Closed → (∀ v ∈ l.vars, l.Aligned v) →
    (l.vars.Pairwise fun u v => l.stop u ≤ v.start) → (∃ count, l.slotCount = .ok count) →
    l.check = .ok () := by
  intro h
  have hcheck := h (namespaced (BitVec.twoPow 256 251)) (closed_namespaced _) (aligned_namespaced _)
    (by decide) ⟨BitVec.twoPow 256 251 + 1, by rfl⟩
  have hfault : (namespaced (BitVec.twoPow 256 251)).check =
      .error (.invalidLayout (.outOfRange "total")) := by rfl
  rw [hfault] at hcheck
  cases hcheck

end ContractAtlas.Layout
