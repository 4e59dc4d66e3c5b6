import ContractAtlas.Layout.Packing
import Mathlib.Algebra.Group.Nat.Defs
import Mathlib.Logic.Unique
import Mathlib.Tactic.Lemma

/-! The packing rules in exact numbers of bytes. The walk over the variables, which looks at the one
before only, accepts a layout if and only if all its variables lie apart. -/

namespace ContractAtlas

lemma bind_eq_ok_iff {ε α β : Type} {x : Except ε α} {f : α → Except ε β} {b : β} :
    (x >>= f) = .ok b ↔ ∃ a, x = .ok a ∧ f a = .ok b := by
  cases x with
  | error e => simp [bind, Except.bind]
  | ok a => simp [bind, Except.bind]

lemma Word.toNat_ofNat_of_lt {n : Nat} (h : n < 2 ^ 256) : (BitVec.ofNat 256 n).toNat = n := by
  rw [BitVec.toNat_ofNat, Nat.mod_eq_of_lt h]

def Descriptor.Mentions (d : Descriptor) (type : String) : Prop :=
  d.base = some type ∨ d.key = some type ∨ d.value = some type ∨
    ∃ members, d.members = some members ∧ ∃ v ∈ members, v.type = type

lemma mem_references_iff {d : Descriptor} {type : String} :
    type ∈ d.references ↔ d.Mentions type := by
  have hbase : some type = d.base ↔ d.base = some type := eq_comm
  have hkey : some type = d.key ↔ d.key = some type := eq_comm
  have hvalue : some type = d.value ↔ d.value = some type := eq_comm
  cases hm : d.members with
  | none => simp [Descriptor.references, Descriptor.Mentions, hm, hbase, hkey, hvalue]
  | some members => simp [Descriptor.references, Descriptor.Mentions, hm, hbase, hkey, hvalue, or_assoc]

def Variable.start (v : Variable) : Nat := 32 * v.slot.toNat + v.offset.toNat

namespace Layout

structure Closed (l : Layout) : Prop where
  ofVars : ∀ v ∈ l.vars, v.type ∈ l.types.names
  ofTypes : ∀ name d type, l.types.get? name = some d → d.Mentions type → type ∈ l.types.names

def Missing (l : Layout) (type : String) : Prop :=
  type ∉ l.types.names ∧ ((∃ v ∈ l.vars, v.type = type) ∨
    ∃ name d, l.types.get? name = some d ∧ d.Mentions type)

def width (l : Layout) (v : Variable) : Nat :=
  (l.types.get? v.type).elim 0 fun d => d.width.toNat

def extent (l : Layout) (v : Variable) : Nat :=
  if l.width v ≤ 32 then l.width v else 32 * ((l.width v + 31) / 32)

def stop (l : Layout) (v : Variable) : Nat := v.start + l.extent v

def Aligned (l : Layout) (v : Variable) : Prop :=
  (l.width v ≤ 32 → v.offset.toNat + l.width v ≤ 32) ∧ (32 < l.width v → v.offset.toNat = 0)

structure Packed (l : Layout) : Prop where
  closed : l.Closed
  aligned : ∀ v ∈ l.vars, l.Aligned v
  apart : l.vars.Pairwise fun u v => l.stop u ≤ v.start
  bounded : ∀ v ∈ l.vars, l.stop v ≤ 2 ^ 256 - 1

def withVars (l : Layout) (vs : List Variable) : Layout := { l with vars := vs }

lemma Closed.withVars {l : Layout} (h : l.Closed) {vs : List Variable}
    (hvs : ∀ v ∈ vs, v.type ∈ l.types.names) : (l.withVars vs).Closed :=
  ⟨hvs, h.ofTypes⟩

lemma Packed.withVars {l : Layout} (h : l.Packed) {vs : List Variable} (hvs : vs.Sublist l.vars) :
    (l.withVars vs).Packed where
  closed := h.closed.withVars fun v hv => h.closed.ofVars v (hvs.subset hv)
  aligned v hv := h.aligned v (hvs.subset hv)
  apart := h.apart.sublist hvs
  bounded v hv := h.bounded v (hvs.subset hv)

lemma width_of_get? {l : Layout} {v : Variable} {d : Descriptor} (h : l.types.get? v.type = some d) :
    l.width v = d.width.toNat := by
  rw [width, h, Option.elim_some]

lemma start_le_stop (l : Layout) (v : Variable) : v.start ≤ l.stop v := Nat.le_add_right _ _

lemma mem_names_iff {l : Layout} {type : String} :
    type ∈ l.types.names ↔ ∃ d, l.types.get? type = some d := by
  rw [← Table.contains_iff, Table.contains_eq, Option.isSome_iff_exists]

lemma mem_layout_references_iff {l : Layout} {type : String} :
    type ∈ l.references ↔ (∃ v ∈ l.vars, v.type = type) ∨
      ∃ name d, l.types.get? name = some d ∧ d.Mentions type := by
  simp only [references, List.mem_append, List.mem_map, List.mem_flatMap, Prod.exists,
    Table.mem_entries_iff, mem_references_iff]

lemma mem_missing_iff {l : Layout} {type : String} :
    type ∈ l.references.filter (fun type => !l.types.contains type) ↔ l.Missing type := by
  rw [List.mem_filter, Bool.not_eq_true', Bool.eq_false_iff, Ne, Table.contains_iff,
    mem_layout_references_iff, and_comm, Missing]

lemma closed_iff_no_missing {l : Layout} : l.Closed ↔ ¬ ∃ type, l.Missing type := by
  constructor
  · rintro h ⟨type, hn, ⟨v, hv, rfl⟩ | ⟨name, d, hd, ht⟩⟩
    · exact hn (h.ofVars v hv)
    · exact hn (h.ofTypes name d type hd ht)
  · intro h
    refine ⟨fun v hv => by_contra fun hn => ?_, fun name d type hd ht => by_contra fun hn => ?_⟩
    · exact h ⟨v.type, hn, .inl ⟨v, hv, rfl⟩⟩
    · exact h ⟨type, hn, .inr ⟨name, d, hd, ht⟩⟩

lemma missingType?_eq_none_iff {l : Layout} : l.missingType? = none ↔ l.Closed := by
  rw [missingType?, least_eq_none_iff, List.eq_nil_iff_forall_not_mem, closed_iff_no_missing, not_exists]
  exact forall_congr' fun type => not_congr mem_missing_iff

lemma checkAligned_eq_ok_iff {v : Variable} {d : Descriptor} : checkAligned v d = .ok () ↔
    (d.width.toNat ≤ 32 → v.offset.toNat + d.width.toNat ≤ 32) ∧
      (32 < d.width.toNat → v.offset.toNat = 0) := by
  have h32 : d.width ≤ wordSize ↔ d.width.toNat ≤ 32 := UInt64.le_iff_toNat_le
  have hzero : v.offset = 0 ↔ v.offset.toNat = 0 := UInt64.toNat_inj.symm
  rw [checkAligned]
  by_cases h : d.width.toNat ≤ 32
  · rw [if_pos (h32.mpr h), checkPacked_eq_ok_iff]
    omega
  · rw [if_neg (mt h32.mp h)]
    by_cases ho : v.offset.toNat = 0
    · simp [hzero, ho, h]
    · simp [hzero, ho, h]

lemma startOf_eq_ok_iff {v : Variable} {start : Word} :
    startOf v = .ok start ↔ start.toNat = v.start := by
  rw [startOf, Variable.start, ← bytePosition?_eq_some_iff]
  cases bytePosition? v.slot v.offset <;> simp

lemma checkBehind_eq_ok_iff {previous : Option (String × Word)} {v : Variable} {start : Word} :
    checkBehind previous v start = .ok () ↔ ∀ p ∈ previous, p.2.toNat ≤ start.toNat := by
  cases previous with
  | none => simp [checkBehind]
  | some p =>
    obtain ⟨label, stop⟩ := p
    simp [checkBehind, BitVec.lt_def]

lemma stopOf_eq_ok_iff {v : Variable} {d : Descriptor} {start stop : Word} :
    stopOf v d start = .ok stop ↔ stop.toNat = start.toNat + (occupied d).toNat := by
  rw [stopOf, ← Word.add?_eq_some_iff]
  cases Word.add? start (occupied d) <;> simp

lemma place_eq_ok_iff {l : Layout} {previous : Option (String × Word)} {v : Variable} {stop : Word} :
    l.place previous v = .ok stop ↔ v.type ∈ l.types.names ∧ l.Aligned v ∧
      (∀ p ∈ previous, p.2.toNat ≤ v.start) ∧ stop.toNat = l.stop v := by
  simp only [place, bind_eq_ok_iff, Unique.exists_iff, PUnit.default_eq_unit, descriptor_eq_ok_iff,
    checkAligned_eq_ok_iff, startOf_eq_ok_iff, checkBehind_eq_ok_iff, stopOf_eq_ok_iff, toNat_occupied,
    mem_names_iff]
  constructor
  · rintro ⟨d, hd, ha, start, hs, hb, he⟩
    rw [← width_of_get? hd] at ha he
    rw [hs] at hb he
    exact ⟨⟨d, hd⟩, ha, hb, he⟩
  · rintro ⟨⟨d, hd⟩, ha, hb, he⟩
    have hlt : v.start < 2 ^ 256 := by
      have := stop.isLt
      have := l.start_le_stop v
      omega
    have hs := Word.toNat_ofNat_of_lt hlt
    refine ⟨d, hd, width_of_get? hd ▸ ha, BitVec.ofNat 256 v.start, hs, ?_, ?_⟩
    · rwa [hs]
    · rw [hs, ← width_of_get? hd]
      exact he

/-- Ends never go back, so that each variable behind the last end lies behind all of them. -/
lemma placeAll_eq_ok_iff {l : Layout} {previous : Option (String × Word)} {vs : List Variable} :
    l.placeAll previous vs = .ok () ↔
      (∀ v ∈ vs, v.type ∈ l.types.names ∧ l.Aligned v ∧ l.stop v ≤ 2 ^ 256 - 1) ∧
        (∀ p ∈ previous, ∀ v ∈ vs, p.2.toNat ≤ v.start) ∧
        vs.Pairwise fun u v => l.stop u ≤ v.start := by
  induction vs generalizing previous with
  | nil => simp [placeAll]
  | cons v vs ih =>
    simp only [placeAll, bind_eq_ok_iff, place_eq_ok_iff, ih, List.pairwise_cons, List.forall_mem_cons]
    constructor
    · rintro ⟨stop, ⟨hn, ha, hb, hs⟩, hvs, hbehind, hp⟩
      have hstop : ∀ w ∈ vs, l.stop v ≤ w.start := fun w hw => hs ▸ hbehind _ rfl w hw
      have hle := l.start_le_stop v
      refine ⟨⟨⟨hn, ha, ?_⟩, hvs⟩, fun p hp => ⟨hb p hp, fun w hw => ?_⟩, hstop, hp⟩
      · have := stop.isLt
        omega
      · exact Nat.le_trans (hb p hp) (Nat.le_trans hle (hstop w hw))
    · rintro ⟨⟨⟨hn, ha, hle⟩, hvs⟩, hb, hstop, hp⟩
      have hs : (BitVec.ofNat 256 (l.stop v)).toNat = l.stop v := Word.toNat_ofNat_of_lt (by omega)
      refine ⟨BitVec.ofNat 256 (l.stop v), ⟨hn, ha, fun p hp => (hb p hp).1, hs⟩, hvs, ?_, hp⟩
      rintro _ ⟨⟩ w hw
      rw [hs]
      exact hstop w hw

lemma packed_of_check {l : Layout} (h : l.check = .ok ()) : l.Packed := by
  rw [check] at h
  split at h
  · cases h
  · rename_i hm
    obtain ⟨hv, _, hp⟩ := placeAll_eq_ok_iff.mp h
    exact ⟨missingType?_eq_none_iff.mp hm, fun v hm => (hv v hm).2.1, hp, fun v hm => (hv v hm).2.2⟩

lemma check_of_packed {l : Layout} (h : l.Packed) : l.check = .ok () := by
  rw [check, missingType?_eq_none_iff.mpr h.closed]
  refine placeAll_eq_ok_iff.mpr ⟨fun v hv => ?_, by simp, h.apart⟩
  exact ⟨h.closed.ofVars v hv, h.aligned v hv, h.bounded v hv⟩

theorem check_eq_ok_iff_packed (l : Layout) : l.check = .ok () ↔ l.Packed :=
  ⟨packed_of_check, check_of_packed⟩

end Layout

end ContractAtlas
