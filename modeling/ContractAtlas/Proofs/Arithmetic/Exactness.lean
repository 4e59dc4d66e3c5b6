import ContractAtlas.Proofs.Arithmetic.Machine
import ContractAtlas.Proofs.Layout.FirstFault
import ContractAtlas.Proofs.Layout.Footprint
import ContractAtlas.Proofs.Storage.Overflow

/-! No arithmetic on a layout depends on the machine, whatever the numbers in the layout are. -/

namespace ContractAtlas

@[simp] lemma ok_bind {ε α β : Type} (a : α) (f : α → Except ε β) : (.ok a >>= f) = f a := rfl

namespace Machine

lemma ran_bind {α β γ δ : Type} {read : α → β} {read' : γ → δ} {x : Except Fault α}
    {next : α → Except Fault γ} {run : β → Except Stop δ}
    (h : ∀ a, run (read a) = ran read' (next a)) : (ran read x >>= run) = ran read' (x >>= next) := by
  cases x with
  | error f => rfl
  | ok a => exact h a

lemma fits_of_lt {bits : Nat} {n : Int} {k : Nat} (hn : n = k) (h : k < 2 ^ bits) : Fits bits n := by
  subst hn
  exact ⟨Int.natCast_nonneg k, by exact_mod_cast h⟩

lemma checked_bind_checked {bits : Nat} {n k : Int} {violation : Violation} (hn : 0 ≤ n) (hk : 0 ≤ k) :
    (do let first ← checked bits n violation
        checked bits (first + k) violation) = checked bits (n + k) violation := by
  by_cases h : Fits bits n
  · rw [checked, if_pos h]
    rfl
  · have hsum : ¬ Fits bits (n + k) := fun hs => h ⟨hn, lt_of_le_of_lt (by omega) hs.2⟩
    rw [checked, checked, if_neg h, if_neg hsum]
    rfl

lemma checked_eq_elim {o : Option Word} {n : Nat} (h : ∀ w, o = some w ↔ w.toNat = n)
    (violation : Violation) :
    checked 256 n violation = o.elim (violated violation) fun w => .ok (exact w) := by
  by_cases hn : n < 2 ^ 256
  · have hw := Word.toNat_ofNat_of_lt hn
    rw [(h _).mpr hw, Option.elim_some, exact, hw]
    exact if_pos (fits_of_lt rfl hn)
  · have hnone : o = none := Option.eq_none_iff_forall_ne_some.mpr fun w hw => by
      have := (h w).mp hw
      have := w.isLt
      omega
    rw [hnone]
    exact if_neg fun hf => hn (by exact_mod_cast hf.2)

lemma checked_add_eq_elim {x y : Word} {k : Nat} (hk : y.toNat = k) (violation : Violation) :
    checked 256 (x.toNat + k) violation =
      (Word.add? x y).elim (violated violation) fun w => .ok (exact w) := by
  have h : ∀ w, Word.add? x y = some w ↔ w.toNat = x.toNat + k := fun w => by
    rw [Word.add?_eq_some_iff, hk]
  rw [← checked_eq_elim h, Nat.cast_add]

lemma checkPacked_eq (v : Variable) (d : Descriptor) :
    checkPacked v d = ran id (Layout.checkPacked v d) := by
  have hsum : (v.offset.toNat + d.width.toNat : Int) = (v.offset.toNat + d.width.toNat : Nat) := rfl
  by_cases h : v.offset.toNat + d.width.toNat ≤ 32
  · rw [Layout.checkPacked_eq_ok_iff.mpr h, checkPacked, checked,
      if_pos (fits_of_lt hsum (by omega))]
    exact if_pos (by exact_mod_cast h)
  · rw [Layout.checkPacked_of_overflow (by omega), checkPacked, checked]
    split
    · exact if_neg (by exact_mod_cast h)
    · rfl

lemma checkAligned_eq (v : Variable) (d : Descriptor) :
    checkAligned v d = ran id (Layout.checkAligned v d) := by
  have hle : d.width ≤ wordSize ↔ d.width.toNat ≤ 32 := UInt64.le_iff_toNat_le
  have hzero : v.offset = 0 ↔ v.offset.toNat = 0 := UInt64.toNat_inj.symm
  simp only [checkAligned, Layout.checkAligned, hle, hzero]
  split
  · exact checkPacked_eq v d
  · split <;> rfl

lemma startOf_eq (v : Variable) : startOf v = ran exact (Layout.startOf v) := by
  have hsum : (v.slot.toNat * 32 + v.offset.toNat : Int) = (32 * v.slot.toNat + v.offset.toNat : Nat) := by
    omega
  rw [startOf, checked_bind_checked (by omega) (by omega), hsum,
    checked_eq_elim fun _ => Layout.bytePosition?_eq_some_iff, Layout.startOf]
  cases Layout.bytePosition? v.slot v.offset <;> rfl

lemma checkBehind_eq (previous : Option (String × Word)) (v : Variable) (start : Word) :
    checkBehind (previous.map fun p => (p.1, exact p.2)) v (exact start) =
      ran id (Layout.checkBehind previous v start) := by
  cases previous with
  | none => rfl
  | some p =>
    have hlt : exact start < exact p.2 ↔ start < p.2 := by
      rw [exact, exact, Nat.cast_lt, BitVec.lt_def]
    simp only [Option.map_some, checkBehind, Layout.checkBehind, hlt]
    split <;> rfl

variable (m : Machine)

lemma narrow_natCast {bits n : Nat} (h : n < 2 ^ bits) : m.narrow bits n = .ok (n : Int) :=
  m.narrow_of_fits (fits_of_lt rfl h)

lemma slotsSpanned_eq (d : Descriptor) : m.slotsSpanned d = .ok (d.slotsSpanned.toNat : Int) := by
  have hw := d.width.toNat_lt
  have hspan := d.toNat_slotsSpanned
  have hcount : m.narrow 64 (d.width.toNat / 32 + 1) = .ok ((d.width.toNat / 32 + 1 : Nat) : Int) :=
    m.narrow_natCast (show d.width.toNat / 32 + 1 < 2 ^ 64 by omega)
  rw [slotsSpanned]
  split
  · refine congrArg Except.ok ?_
    omega
  · rw [hcount]
    refine congrArg Except.ok ?_
    omega

section Field

variable {w offset width : Nat}

lemma shiftRight_eq (n : Nat) {amount : Nat} (h : amount < 256) :
    m.shiftRight n amount = .ok ((n / 2 ^ amount : Nat) : Int) := by
  rw [shiftRight, m.narrow_natCast h]
  exact congrArg (fun k : Nat => Except.ok (k : Int)) (Nat.shiftRight_eq_div_pow n amount)

lemma shiftLeft_one_eq {amount : Nat} (h : amount < 256) :
    m.shiftLeft 1 amount = .ok ((2 ^ amount : Nat) : Int) := by
  have hpow : 2 ^ amount < 2 ^ 256 := Nat.pow_lt_pow_right (by omega) h
  have hone : (1 : Int) <<< amount = (2 ^ amount : Nat) :=
    congrArg (fun k : Nat => (k : Int)) (Nat.one_shiftLeft amount)
  rw [shiftLeft, m.narrow_natCast h]
  exact (congrArg (m.narrow 256) hone).trans (m.narrow_natCast hpow)

lemma mask_eq {amount : Nat} (h : amount < 256) :
    m.narrow 256 ((2 ^ amount : Nat) - 1) = .ok ((2 ^ amount - 1 : Nat) : Int) := by
  have hpow : 2 ^ amount < 2 ^ 256 := Nat.pow_lt_pow_right (by omega) h
  have hpos : 1 ≤ 2 ^ amount := Nat.one_le_two_pow
  rw [← Nat.cast_one, ← Nat.cast_sub hpos]
  exact m.narrow_natCast (by omega)

lemma field_eq_of_lt (hw : w < 2 ^ 256) (ho : offset < 2 ^ 64) (hn : width < 2 ^ 64) :
    m.field w offset width = .ok ((w / 256 ^ offset % 256 ^ width : Nat) : Int) := by
  have hbound {n : Nat} (h : 32 ≤ n) : w < 256 ^ n :=
    hw.trans_le (Nat.pow_le_pow_right (by omega) h : 256 ^ 32 ≤ 256 ^ n)
  have hbits {n : Nat} (h : n < 32) : m.narrow 64 (n * 8) = .ok ((n * 8 : Nat) : Int) :=
    m.narrow_natCast (show n * 8 < 2 ^ 64 by omega)
  have hpow (n : Nat) : 2 ^ (n * 8) = 256 ^ n := by rw [Nat.mul_comm, Nat.pow_mul]
  rw [field]
  by_cases hs : 32 ≤ offset
  · rw [if_pos (by exact_mod_cast hs), Nat.div_eq_of_lt (hbound hs), Nat.zero_mod]
    rfl
  · rw [if_neg (by exact_mod_cast hs), hbits (by omega), ok_bind,
      m.shiftRight_eq w (show offset * 8 < 256 by omega), ok_bind, hpow]
    by_cases hl : 32 ≤ width
    · rw [if_pos (by exact_mod_cast hl), Nat.mod_eq_of_lt ((Nat.div_le_self _ _).trans_lt (hbound hl))]
      rfl
    · have hlt : width * 8 < 256 := by omega
      rw [if_neg (by exact_mod_cast hl), hbits (by omega), ok_bind, m.shiftLeft_one_eq hlt, ok_bind,
        m.mask_eq hlt, ok_bind, ← hpow width, ← Nat.and_two_pow_sub_one_eq_mod]
      rfl

lemma field_eq (w : Word) (offset width : UInt64) :
    m.field w.toNat offset.toNat width.toNat = .ok (exact (w.field offset width)) := by
  rw [m.field_eq_of_lt w.isLt offset.toNat_lt width.toNat_lt, exact, Word.toNat_field]

end Field

lemma slotAfter_eq (l : Layout) (v : Variable) : m.slotAfter l v = ran exact (l.slotAfter v) := by
  apply ran_bind
  intro d
  rw [id, slotsSpanned_eq, ok_bind, checked_add_eq_elim (Word.toNat_ofUInt64 d.slotsSpanned)]
  cases Word.add? v.slot (Word.ofUInt64 d.slotsSpanned) <;> rfl

lemma reach_eq (l : Layout) (vs : List Variable) (last : Word) :
    vs.foldlM (fun last v => do
        let stop ← m.slotAfter l v
        return max last stop) (exact last) =
      ran exact (vs.foldlM (fun last v => do
        let stop ← l.slotAfter v
        return if last < stop then stop else last) last) := by
  have hmax (a b : Word) : max (exact a) (exact b) = exact (if a < b then b else a) := by
    simp only [exact, BitVec.lt_def]
    split <;> omega
  induction vs generalizing last with
  | nil => rfl
  | cons v vs ih =>
    rw [List.foldlM_cons, List.foldlM_cons, slotAfter_eq]
    cases l.slotAfter v with
    | error f => rfl
    | ok stop => exact (congrArg (List.foldlM _ · vs) (hmax last stop)).trans (ih _)

lemma slotCount_eq (l : Layout) : m.slotCount l = ran exact l.slotCount :=
  m.reach_eq l l.vars 0

lemma occupied_eq (d : Descriptor) : m.occupied d = .ok (exact (Layout.occupied d)) := by
  have hw := d.width.toNat_lt
  have hspan := d.toNat_slotsSpanned
  have hbytes := Layout.toNat_occupied d
  have hspanned : m.narrow 256 (d.slotsSpanned.toNat * 32) = .ok ((d.slotsSpanned.toNat * 32 : Nat) : Int) :=
    m.narrow_natCast (show d.slotsSpanned.toNat * 32 < 2 ^ 256 by omega)
  rw [occupied, exact, hbytes]
  split
  · rfl
  · rw [slotsSpanned_eq]
    refine hspanned.trans (congrArg Except.ok ?_)
    omega

lemma stopOf_eq (v : Variable) (d : Descriptor) (start : Word) :
    m.stopOf v d (exact start) = ran exact (Layout.stopOf v d start) := by
  rw [stopOf, occupied_eq, ok_bind, exact, exact, checked_add_eq_elim rfl, Layout.stopOf]
  cases Word.add? start (Layout.occupied d) <;> rfl

def behind (previous : Option (String × Word)) : Option (String × Int) :=
  previous.map fun p => (p.1, exact p.2)

lemma place_eq (l : Layout) (previous : Option (String × Word)) (v : Variable) :
    m.place l (behind previous) v = ran exact (l.place previous v) := by
  apply ran_bind
  intro d
  rw [id, checkAligned_eq, startOf_eq]
  apply ran_bind
  intro _
  apply ran_bind
  intro start
  rw [behind, checkBehind_eq]
  apply ran_bind
  intro _
  exact m.stopOf_eq v d start

lemma placeAll_eq (l : Layout) (previous : Option (String × Word)) (vs : List Variable) :
    m.placeAll l (behind previous) vs = ran id (l.placeAll previous vs) := by
  induction vs generalizing previous with
  | nil => rfl
  | cons v vs ih =>
    rw [placeAll, place_eq]
    apply ran_bind
    intro stop
    exact ih (some (v.label, stop))

lemma check_eq (l : Layout) : m.check l = ran id l.check := by
  rw [check, Layout.check]
  cases l.missingType? with
  | some type => rfl
  | none => exact m.placeAll_eq l none l.vars

lemma readVariable_eq (source : Source) (address : Address) (l : Layout) (label : String) :
    m.readVariable source address l label = ran exact (source.readVariable address l label) := by
  apply ran_bind
  intro v
  apply ran_bind
  intro d
  simp only [id]
  cases d.fitsInWord with
  | false => rfl
  | true =>
    rw [checkPacked_eq, field_eq]
    exact ran_bind fun _ => rfl

lemma readMapping_eq (source : Source) (address : Address) (l : Layout) (label : String) (key : Word) :
    m.readMapping source address l label key = ran exact (source.readMapping address l label key) := by
  apply ran_bind
  intro v
  apply ran_bind
  intro d
  simp only [id]
  cases d.isMapping with
  | false => rfl
  | true =>
    cases d.value with
    | none => rfl
    | some type =>
      apply ran_bind
      intro value
      simp only [id]
      cases value.fitsInWord with
      | false => rfl
      | true => exact m.field_eq _ 0 _

lemma slotSpan_eq (slot : Word) (spanned : UInt64) :
    m.slotSpan slot.toNat spanned.toNat = .ok (Report.slotSpan slot spanned) := by
  have hle : spanned ≤ 1 ↔ spanned.toNat ≤ 1 := UInt64.le_iff_toNat_le
  have hone : (1 : UInt64).toNat = 1 := rfl
  simp only [slotSpan, Report.slotSpan, hle]
  by_cases h : spanned.toNat ≤ 1
  · rw [if_pos h, if_pos (by exact_mod_cast h)]
    rfl
  · have hsub : (spanned - 1).toNat = spanned.toNat - 1 :=
      UInt64.toNat_sub_of_le _ _ (by rw [UInt64.le_iff_toNat_le]; omega)
    have hmore : (spanned.toNat - 1 : Int) = ((spanned - 1).toNat : Nat) := by omega
    have hlast : min (slot.toNat + (spanned - 1).toNat : Int) (2 ^ 256 - 1 : Nat) =
        ((slot.addClamped (Word.ofUInt64 (spanned - 1))).toNat : Nat) := by
      rw [Word.toNat_addClamped, Word.toNat_ofUInt64, Word.greatest, BitVec.toNat_allOnes]
      omega
    rw [if_neg h, if_neg (by exact_mod_cast h), hmore,
      m.narrow_natCast (spanned - 1).toNat_lt, ok_bind, hlast]
    rfl

lemma variableRow_eq (l : Layout) (v : Variable) :
    m.variableRow l v = .ok (Report.variableRow l v) := by
  rw [variableRow, Report.variableRow]
  cases l.types.get? v.type with
  | none => rfl
  | some d =>
    dsimp only
    rw [slotsSpanned_eq, ok_bind, slotSpan_eq]
    rfl

lemma report_eq (name : String) (l : Layout) : m.report name l = .ok (Report.layout name l) := by
  have hrows : l.vars.mapM (m.variableRow l) = .ok (l.vars.map (Report.variableRow l)) := by
    rw [funext (m.variableRow_eq l)]
    exact List.mapM_pure
  rw [report, hrows]
  rfl

end Machine

namespace Layout

variable {l : Layout} {v : Variable} {d : Descriptor}

/-- On the way to the end of a variable a number is formed that is no machine number. -/
def Overflows (v : Variable) (d : Descriptor) : Prop :=
  2 ^ 64 ≤ v.offset.toNat + d.width.toNat ∨ 2 ^ 256 ≤ 32 * v.slot.toNat ∨
    2 ^ 256 ≤ v.start ∨ 2 ^ 256 ≤ v.start + (occupied d).toNat

lemma Packed.not_overflows (h : l.Packed) (hv : v ∈ l.vars) (hd : l.types.get? v.type = some d) :
    ¬ Overflows v d := by
  obtain ⟨hnarrow, hwide⟩ := h.aligned v hv
  have hbound := h.bounded v hv
  have hend := toNat_occupied d
  have hw := d.width.toNat_lt
  rw [stop, extent] at hbound
  rw [width_of_get? hd] at hnarrow hwide hbound
  rw [Overflows, hend]
  have hstart : 32 * v.slot.toNat ≤ v.start := Nat.le_add_right _ _
  by_cases hle : d.width.toNat ≤ 32
  · have := hnarrow hle
    omega
  · have := hwide (by omega)
    omega

lemma check_of_overflows (hc : l.Closed) (hv : v ∈ l.vars) (hd : l.types.get? v.type = some d)
    (h : Overflows v d) : ∃ violation, l.check = .error (.invalidLayout violation) := by
  cases hcheck : l.check with
  | ok u => exact absurd h ((packed_of_check hcheck).not_overflows hv hd)
  | error f =>
    rw [check_of_closed hc] at hcheck
    obtain ⟨violation, hf⟩ := blamesPacking_placeAll hc.ofVars f hcheck
    exact ⟨violation, congrArg Except.error hf⟩

lemma slotCount_of_overflow {before after : List Variable} {n : Word} (hvars : l.vars = before ++ v :: after)
    (hbefore : (l.withVars before).slotCount = .ok n) (hd : l.types.get? v.type = some d)
    (h : 2 ^ 256 ≤ v.slot.toNat + d.slotsSpanned.toNat) :
    l.slotCount = .error (.invalidLayout (.pastLastSlot v.label)) := by
  have hadd : Word.add? v.slot (Word.ofUInt64 d.slotsSpanned) = none := by
    rw [Word.add?_eq_none_iff, Word.toNat_ofUInt64, Word.greatest, BitVec.toNat_allOnes]
    omega
  have hafter : l.slotAfter v = .error (.invalidLayout (.pastLastSlot v.label)) := by
    rw [slotAfter, descriptor_eq_ok_iff.mpr hd, ok_bind, hadd]
  have hreach : before.foldlM (fun last v => do
      let stop ← l.slotAfter v
      return if last < stop then stop else last) 0 = .ok n := hbefore
  rw [slotCount, hvars, List.foldlM_append, hreach, ok_bind, List.foldlM_cons, hafter]
  rfl

/-- On every machine, one that panics or wraps where a result does not fit or one with integers that have
no end, the runs over a layout give the same and none of them panics. Sums and products that are checked
and do not fit are reported as faults of the layout. -/
theorem arithmetic_exact (l : Layout) :
    (∀ m : Machine,
      (∀ d, m.slotsSpanned d = .ok (d.slotsSpanned.toNat : Int)) ∧
      (∀ w offset width, m.field (Machine.exact w) offset.toNat width.toNat =
        .ok (Machine.exact (w.field offset width))) ∧
      (∀ slot spanned, m.slotSpan (Machine.exact slot) spanned.toNat =
        .ok (Report.slotSpan slot spanned)) ∧
      m.slotCount l = Machine.ran Machine.exact l.slotCount ∧
      m.check l = Machine.ran id l.check ∧
      (∀ source address label,
        m.readVariable source address l label =
          Machine.ran Machine.exact (source.readVariable address l label) ∧
        ∀ key, m.readMapping source address l label key =
          Machine.ran Machine.exact (source.readMapping address l label key)) ∧
      ∀ name, m.report name l = .ok (Report.layout name l)) ∧
    (∀ v d, Machine.checkPacked v d = Machine.ran id (checkPacked v d)) ∧
    (∀ v d, 2 ^ 64 ≤ v.offset.toNat + d.width.toNat →
      checkPacked v d = .error (.invalidLayout (.overflowsSlot v.label v.offset d.width v.slot))) ∧
    (∀ before v after d n, l.vars = before ++ v :: after → (l.withVars before).slotCount = .ok n →
      l.types.get? v.type = some d → 2 ^ 256 ≤ v.slot.toNat + d.slotsSpanned.toNat →
      l.slotCount = .error (.invalidLayout (.pastLastSlot v.label))) ∧
    (l.Closed → ∀ v ∈ l.vars, ∀ d, l.types.get? v.type = some d → Overflows v d →
      ∃ violation, l.check = .error (.invalidLayout violation)) := by
  refine ⟨fun m => ⟨?_, ?_, ?_, ?_, ?_, ?_, ?_⟩, Machine.checkPacked_eq, ?_, ?_, ?_⟩
  · exact m.slotsSpanned_eq
  · exact m.field_eq
  · exact m.slotSpan_eq
  · exact m.slotCount_eq l
  · exact m.check_eq l
  · intro source address label
    exact ⟨m.readVariable_eq source address l label, m.readMapping_eq source address l label⟩
  · exact fun name => m.report_eq name l
  · intro v d h
    exact checkPacked_of_overflow (by omega)
  · intro before v after d n hvars hbefore hd h
    exact slotCount_of_overflow hvars hbefore hd h
  · intro hc v hv d hd h
    exact check_of_overflows hc hv hd h

def brim : Variable := ⟨2, "Brim", "rest", 0xffffffffffffffff, Word.greatest, "t_rest"⟩

def rest : Descriptor := ⟨.inplace, "bytes", 0xffffffffffffffff, none, none, none, none⟩

def brimming : Layout where
  vars := [⟨1, "Brim", "first", 0, 0, "t_rest"⟩, brim]
  types :=
    { entries := [("t_rest", rest)]
      sorted := by simp }

theorem arithmetic_exact_brimming :
    Machine.panicking.slotsSpanned rest = .ok (2 ^ 59 : Nat) ∧
      Machine.wrapping.check brimming = Machine.unbounded.check brimming ∧
      checkPacked brim rest = .error (.invalidLayout
        (.overflowsSlot "rest" 0xffffffffffffffff 0xffffffffffffffff Word.greatest)) ∧
      brimming.slotCount = .error (.invalidLayout (.pastLastSlot "rest")) ∧
      ∃ violation, brimming.check = .error (.invalidLayout violation) := by
  have hspan : rest.slotsSpanned.toNat = 2 ^ 59 := by decide
  have hsum : 2 ^ 64 ≤ brim.offset.toNat + rest.width.toNat := by decide
  have hslots : 2 ^ 256 ≤ brim.slot.toNat + rest.slotsSpanned.toNat := by rw [hspan]; decide
  have hclosed : brimming.Closed := missingType?_eq_none_iff.mp rfl
  have hbefore : (brimming.withVars [⟨1, "Brim", "first", 0, 0, "t_rest"⟩]).slotCount =
      .ok 0x800000000000000 := rfl
  obtain ⟨hm, -, hpacked, hcount, hcheck⟩ := arithmetic_exact brimming
  obtain ⟨hspanned, -⟩ := hm Machine.panicking
  obtain ⟨-, -, -, -, hwrapping, -⟩ := hm Machine.wrapping
  obtain ⟨-, -, -, -, hunbounded, -⟩ := hm Machine.unbounded
  refine ⟨?_, hwrapping.trans hunbounded.symm, hpacked brim rest hsum, ?_, ?_⟩
  · rw [hspanned, hspan]
  · exact hcount _ brim [] rest _ rfl hbefore rfl hslots
  · exact hcheck hclosed brim (.tail _ (.head _)) rest rfl (.inl hsum)

end Layout

end ContractAtlas
