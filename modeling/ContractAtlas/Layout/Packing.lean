import ContractAtlas.Layout.Query

/-!
The packing rules. A value of at most a word lies inside one slot, a wider one starts a slot and fills
whole slots, and the variables come in ascending order without overlap. `check` walks once over the
variables, comparing each with the end of the one before.
-/

namespace ContractAtlas.Layout

def least : List String → Option String
  | [] => none
  | s :: ss =>
    match least ss with
    | none => some s
    | some m => some (if s < m then s else m)

theorem least_eq_none_iff {ss : List String} : least ss = none ↔ ss = [] := by
  cases ss with
  | nil => simp [least]
  | cons s ss => cases h : least ss <;> simp [least, h]

theorem least_mem {ss : List String} {m : String} (h : least ss = some m) :
    m ∈ ss ∧ ∀ s ∈ ss, m ≤ s := by
  induction ss generalizing m with
  | nil => cases h
  | cons s ss ih =>
    rw [least] at h
    split at h
    · rename_i hn
      obtain rfl := least_eq_none_iff.mp hn
      obtain rfl := Option.some.inj h
      simp
    · rename_i k hk
      obtain ⟨hmem, hle⟩ := ih hk
      obtain rfl := Option.some.inj h
      by_cases hlt : s < k
      · have hsk := String.not_lt.mp fun hks => String.lt_irrefl s (String.lt_trans hlt hks)
        simpa [hlt] using fun t ht => String.le_trans hsk (hle t ht)
      · simpa [hlt, hmem] using ⟨String.not_lt.mp hlt, hle⟩

def references (l : Layout) : List String :=
  l.vars.map Variable.type ++ l.types.entries.flatMap fun e => e.2.references

def missingType? (l : Layout) : Option String :=
  least (l.references.filter fun type => !l.types.contains type)

def add64? (x y : UInt64) : Option UInt64 :=
  if x.toBitVec.uaddOverflow y.toBitVec then none else some (x + y)

def checkPacked (v : Variable) (d : Descriptor) : Except Fault Unit :=
  match add64? v.offset d.width with
  | some stop =>
    if stop ≤ wordSize then .ok ()
    else .error (.invalidLayout (.overflowsSlot v.label v.offset d.width v.slot))
  | none => .error (.invalidLayout (.overflowsSlot v.label v.offset d.width v.slot))

def checkAligned (v : Variable) (d : Descriptor) : Except Fault Unit :=
  if d.width ≤ wordSize then checkPacked v d
  else if v.offset = 0 then .ok ()
  else .error (.invalidLayout (.wideAtOffset v.label v.offset))

def bytePosition? (slot : Word) (offset : UInt64) : Option Word := do
  Word.add? (← Word.mul? slot (Word.ofUInt64 wordSize)) (Word.ofUInt64 offset)

def occupied (d : Descriptor) : Word :=
  if d.width ≤ wordSize then Word.ofUInt64 d.width
  else Word.ofUInt64 d.slotsSpanned * Word.ofUInt64 wordSize

def startOf (v : Variable) : Except Fault Word :=
  match bytePosition? v.slot v.offset with
  | some start => .ok start
  | none => .error (.invalidLayout (.outOfRange v.label))

/-- `previous` is the label and the end of the variable before, if there is one. -/
def checkBehind (previous : Option (String × Word)) (v : Variable) (start : Word) :
    Except Fault Unit :=
  match previous with
  | some (label, stop) =>
    if start < stop then .error (.invalidLayout (.overlaps v.label label)) else .ok ()
  | none => .ok ()

def stopOf (v : Variable) (d : Descriptor) (start : Word) : Except Fault Word :=
  match Word.add? start (occupied d) with
  | some stop => .ok stop
  | none => .error (.invalidLayout (.pastLastSlot v.label))

def place (l : Layout) (previous : Option (String × Word)) (v : Variable) : Except Fault Word := do
  let d ← l.descriptor v.type
  checkAligned v d
  let start ← startOf v
  checkBehind previous v start
  stopOf v d start

def placeAll (l : Layout) : Option (String × Word) → List Variable → Except Fault Unit
  | _, [] => .ok ()
  | previous, v :: vs => do
    let stop ← l.place previous v
    l.placeAll (some (v.label, stop)) vs

def check (l : Layout) : Except Fault Unit :=
  match l.missingType? with
  | some type => .error (.unknownType type)
  | none => l.placeAll none l.vars

theorem add64?_eq_some_iff {x y z : UInt64} : add64? x y = some z ↔ z.toNat = x.toNat + y.toNat := by
  have hz := z.toNat_lt
  rw [add64?, Option.ite_none_left_eq_some, BitVec.uaddOverflow, decide_eq_true_eq,
    Option.some.injEq, UInt64.toNat_toBitVec, UInt64.toNat_toBitVec]
  constructor
  · rintro ⟨h, rfl⟩
    rw [UInt64.toNat_add]
    omega
  · intro h
    refine ⟨by omega, UInt64.toNat_inj.mp ?_⟩
    rw [UInt64.toNat_add]
    omega

theorem checkPacked_eq_ok_iff {v : Variable} {d : Descriptor} :
    checkPacked v d = .ok () ↔ v.offset.toNat + d.width.toNat ≤ 32 := by
  rw [checkPacked]
  split
  · rename_i stop h
    rw [add64?_eq_some_iff] at h
    have h32 : wordSize.toNat = 32 := rfl
    by_cases hs : stop ≤ wordSize
    · rw [if_pos hs]
      rw [UInt64.le_iff_toNat_le, h, h32] at hs
      simpa using hs
    · rw [if_neg hs]
      rw [UInt64.le_iff_toNat_le, h, h32] at hs
      simpa using hs
  · rename_i h
    simp only [reduceCtorEq, false_iff]
    intro hle
    have hsum : (v.offset + d.width).toNat = v.offset.toNat + d.width.toNat := by
      rw [UInt64.toNat_add]
      omega
    rw [add64?_eq_some_iff.mpr hsum] at h
    cases h

theorem bytePosition?_eq_some_iff {slot p : Word} {offset : UInt64} :
    bytePosition? slot offset = some p ↔ p.toNat = 32 * slot.toNat + offset.toNat := by
  have h32 : (Word.ofUInt64 wordSize).toNat = 32 := rfl
  have hp := p.isLt
  simp only [bytePosition?, Option.bind_eq_bind, Option.bind_eq_some_iff, Word.mul?_eq_some_iff,
    Word.add?_eq_some_iff, h32, Word.toNat_ofUInt64]
  constructor
  · rintro ⟨m, hm, h⟩
    omega
  · intro h
    refine ⟨BitVec.ofNat 256 (slot.toNat * 32), ?_, ?_⟩ <;>
      rw [BitVec.toNat_ofNat, Nat.mod_eq_of_lt (by omega)]
    omega

theorem toNat_occupied (d : Descriptor) : (occupied d).toNat =
    if d.width.toNat ≤ 32 then d.width.toNat else 32 * ((d.width.toNat + 31) / 32) := by
  have h32 : wordSize.toNat = 32 := rfl
  have hw := d.width.toNat_lt
  rw [occupied]
  simp only [UInt64.le_iff_toNat_le, h32]
  split
  · simp
  · rw [BitVec.toNat_mul, Word.toNat_ofUInt64, Word.toNat_ofUInt64, h32,
      Descriptor.toNat_slotsSpanned, Nat.mod_eq_of_lt] <;> omega

end ContractAtlas.Layout
